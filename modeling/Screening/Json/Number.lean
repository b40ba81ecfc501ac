/-
Numbers of a JSON text.

Digits are collected in a significand below `2 ^ 64`; digits that no longer fit count as powers of
ten before the point and are dropped after it. A number without point and exponent is an integer
if it fits, any other is a double: the significand rounded, then multiplied or divided by a power
of ten and rounded again. A number that is passed over is only checked for its form.

* `readNumber`: a number as the value it stands for.
* `skipNumber`: a number of any size.
* `length_skipNumber_lt`: what is left is shorter.
-/
import Screening.Json.Token

namespace Screening.Json

/-! ### Digits -/

/-- The value of a digit. -/
def digitValue (c : Char) : Nat :=
  c.toNat - 48

/-- The text after the digits it starts with. -/
def skipDigits (cs : List Char) : List Char :=
  cs.dropWhile Char.isDigit

theorem length_skipDigits_le (cs : List Char) : (skipDigits cs).length ≤ cs.length :=
  (List.dropWhile_sublist Char.isDigit).length_le

/-- Takes digits onto a number as long as the result stays below a bound. -/
def takeDigits (bound n : Nat) : List Char → Nat × List Char
  | [] => (n, [])
  | c :: r =>
    if c.isDigit && 10 * n + digitValue c < bound then takeDigits bound (10 * n + digitValue c) r
    else (n, c :: r)

/-- The bound of a significand. -/
def significandBound : Nat := Nat.pow 2 64

/-! ### Doubles -/

/-- The largest power of ten that is a finite double. -/
def maxPower : Nat := 308

/-- The double of a significand and a power of ten, by at most three steps of rounding; none if it
is too large. -/
def scale? (x : Binary64) (exponent : Int) : Option Binary64 :=
  if exponent.natAbs ≤ maxPower then
    if 0 ≤ exponent then
      let y := x.mul (Binary64.ofNat (Nat.pow 10 exponent.natAbs))
      if y.isInfinite then none else some y
    else some (x.div (Binary64.ofNat (Nat.pow 10 exponent.natAbs)))
  else if x.units = 0 then some x
  else if 0 ≤ exponent then none
  else scale? (x.div (Binary64.ofNat (Nat.pow 10 maxPower))) (exponent + maxPower)
termination_by exponent.natAbs
decreasing_by simp only [maxPower] at *; omega

/-- The double with a sign. -/
def signed (negative : Bool) (x : Binary64) : Binary64 :=
  if negative then x.neg else x

/-- The double that a significand and an exponent stand for; `rest` is what is left of the text. -/
def finish (negative : Bool) (significand : Nat) (exponent : Int) (rest : List Char) :
    Except Fault (Found × List Char) :=
  match scale? (Binary64.ofNat significand) exponent with
  | some x => .ok (.float (signed negative x), rest)
  | none => .error (.before .numberOutOfRange rest)

/-! ### Reading -/

/-- Reads an optional sign of an exponent: whether the exponent is positive, and the rest. -/
def readExponentSign : List Char → Bool × List Char
  | '+' :: r => (true, r)
  | '-' :: r => (false, r)
  | cs => (true, cs)

theorem length_readExponentSign_le (cs : List Char) :
    (readExponentSign cs).2.length ≤ cs.length := by
  unfold readExponentSign; split <;> simp

/-- The bound of an exponent. -/
def exponentBound : Nat := Nat.pow 2 31

/-- Reads an exponent after its `e`. An exponent beyond its bound makes the number zero, or too
large at the digit that passed the bound. -/
def readExponent (negative : Bool) (significand : Nat) (start : Int) (cs : List Char) :
    Except Fault (Found × List Char) :=
  let (positive, cs) := readExponentSign cs
  match cs with
  | [] => .error (.before .endInValue [])
  | c :: r =>
    if !c.isDigit then .error (.at .invalidNumber (c :: r))
    else
      let (exponent, rest) := takeDigits exponentBound (digitValue c) r
      match rest with
      | d :: rest' =>
        if !d.isDigit then
          finish negative significand (if positive then start + exponent else start - exponent) rest
        else if significand ≠ 0 && positive then .error (.before .numberOutOfRange rest')
        else .ok (.float (signed negative (Binary64.ofNat 0)), skipDigits rest')
      | [] =>
        finish negative significand (if positive then start + exponent else start - exponent) rest

/-- Reads an exponent if one stands here, and makes the number. -/
def readScale (negative : Bool) (significand : Nat) (start : Int) (cs : List Char) :
    Except Fault (Found × List Char) :=
  match cs with
  | c :: r =>
    if c = 'e' ∨ c = 'E' then readExponent negative significand start r
    else finish negative significand start cs
  | [] => finish negative significand start cs

/-- Reads a fraction after its point. -/
def readFraction (negative : Bool) (significand : Nat) (start : Int) (cs : List Char) :
    Except Fault (Found × List Char) :=
  match cs with
  | [] => .error (.before .endInValue [])
  | c :: _ =>
    if !c.isDigit then .error (.at .invalidNumber cs)
    else
      let (significand, rest) := takeDigits significandBound significand cs
      readScale negative significand (start - (cs.length - rest.length : Nat)) (skipDigits rest)

/-- Reads what follows the digits of an integer that needs a double, or makes that double. -/
def readDouble (negative : Bool) (significand : Nat) (start : Int) (cs : List Char) :
    Except Fault (Found × List Char) :=
  match cs with
  | '.' :: r => readFraction negative significand start r
  | _ => readScale negative significand start cs

/-- The value of an integer: a negative zero and what does not fit are doubles. -/
def integerValue (negative : Bool) (n : Nat) : Found :=
  if !negative then .integer n
  else if 1 ≤ n ∧ n ≤ Nat.pow 2 63 then .integer (-n)
  else .float (Binary64.ofNat n).neg

/-- Reads what follows the digits of an integer that fits. -/
def readAfterInteger (negative : Bool) (n : Nat) (cs : List Char) :
    Except Fault (Found × List Char) :=
  match cs with
  | c :: _ =>
    if c = '.' ∨ c = 'e' ∨ c = 'E' then readDouble negative n 0 cs
    else .ok (integerValue negative n, cs)
  | [] => .ok (integerValue negative n, cs)

/-- Reads a number after its sign. -/
def readNumber (negative : Bool) (cs : List Char) : Except Fault (Found × List Char) :=
  match cs with
  | [] => .error (.before .endInValue [])
  | c :: r =>
    if !c.isDigit then .error (.at .invalidNumber (c :: r))
    else if c = '0' then
      match r with
      | d :: _ =>
        if d.isDigit then .error (.at .invalidNumber r) else readAfterInteger negative 0 r
      | [] => readAfterInteger negative 0 r
    else
      let (n, rest) := takeDigits significandBound (digitValue c) r
      match rest with
      | d :: _ =>
        if d.isDigit then
          readDouble negative n (rest.length - (skipDigits rest).length : Nat) (skipDigits rest)
        else readAfterInteger negative n rest
      | [] => readAfterInteger negative n rest

/-! ### Passing over -/

/-- Passes over an exponent after its `e`. -/
def skipExponent (cs : List Char) : Except Fault (List Char) :=
  match (readExponentSign cs).2 with
  | [] => .error (.before .invalidNumber [])
  | c :: r => if c.isDigit then .ok (skipDigits r) else .error (.at .invalidNumber (c :: r))

/-- Passes over an exponent if one stands here. -/
def skipScale (cs : List Char) : Except Fault (List Char) :=
  match cs with
  | c :: r => if c = 'e' ∨ c = 'E' then skipExponent r else .ok cs
  | [] => .ok cs

/-- Passes over what may follow the digits of an integer. -/
def skipAfterInteger (cs : List Char) : Except Fault (List Char) :=
  match cs with
  | '.' :: r =>
    match r with
    | c :: _ => if c.isDigit then skipScale (skipDigits r) else .error (.at .invalidNumber r)
    | [] => .error (.at .invalidNumber r)
  | _ => skipScale cs

/-- Passes over a number after its sign. -/
def skipNumber (cs : List Char) : Except Fault (List Char) :=
  match cs with
  | [] => .error (.before .invalidNumber [])
  | c :: r =>
    if !c.isDigit then .error (.at .invalidNumber (c :: r))
    else if c = '0' then
      match r with
      | d :: _ => if d.isDigit then .error (.at .invalidNumber r) else skipAfterInteger r
      | [] => skipAfterInteger r
    else skipAfterInteger (skipDigits r)

/-! ### What is left is shorter -/

theorem length_skipExponent_le {cs rest : List Char} (h : skipExponent cs = .ok rest) :
    rest.length ≤ cs.length := by
  have hs := length_readExponentSign_le cs
  rw [skipExponent] at h
  split at h
  · cases h
  next c r hr =>
    split at h
    · cases h
      have := length_skipDigits_le r
      simp [hr] at hs; omega
    · cases h

theorem length_skipScale_le {cs rest : List Char} (h : skipScale cs = .ok rest) :
    rest.length ≤ cs.length := by
  unfold skipScale at h
  split at h
  · split at h
    · exact Nat.le_succ_of_le (length_skipExponent_le h)
    · cases h; exact Nat.le_refl _
  · cases h; exact Nat.le_refl _

theorem length_skipAfterInteger_le {cs rest : List Char} (h : skipAfterInteger cs = .ok rest) :
    rest.length ≤ cs.length := by
  unfold skipAfterInteger at h
  split at h
  next r =>
    split at h
    next c r' =>
      split at h
      · have := length_skipScale_le h
        have := length_skipDigits_le (c :: r')
        simp at *; omega
      · cases h
    · cases h
  · exact length_skipScale_le h

theorem length_skipNumber_lt {cs rest : List Char} (h : skipNumber cs = .ok rest) :
    rest.length < cs.length := by
  unfold skipNumber at h
  split at h
  · cases h
  next c r =>
    split at h
    · cases h
    · split at h
      · split at h
        · split at h
          · cases h
          · exact Nat.lt_succ_of_le (length_skipAfterInteger_le h)
        · exact Nat.lt_succ_of_le (length_skipAfterInteger_le h)
      · have := length_skipAfterInteger_le h
        have := length_skipDigits_le r
        simp; omega

end Screening.Json
