/-
Passing over a JSON value of any kind.

The lists and objects around the place are kept in a stack, innermost first, so a value may be
nested to any depth. A value starts with white space and then a scalar or an opening bracket;
after a value comes a comma and the next one, or the closing bracket of the innermost frame.

* `skipValue`: the text after one value.
* `length_skipValue_lt`: it is shorter.
-/
import Screening.Json.Number

namespace Screening.Json

/-! ### Scalars -/

/-- What a place may be inside of. -/
inductive Frame where
  | list
  | object
  deriving DecidableEq

/-- Reads the start of a value: all of a scalar, or the opening bracket of a frame. -/
def skipStart (cs : List Char) : Except Fault (Option Frame × List Char) :=
  match skipSpace cs with
  | [] => .error (.at .endInValue [])
  | c :: r =>
    if c = '[' then .ok (some .list, r)
    else if c.toNat = 0x7B then .ok (some .object, r)
    else if c = '"' then (skipString r).map (none, ·)
    else if c = 'n' then (readWord "ull".toList r).map (none, ·)
    else if c = 't' then (readWord "rue".toList r).map (none, ·)
    else if c = 'f' then (readWord "alse".toList r).map (none, ·)
    else if c = '-' then (skipNumber r).map (none, ·)
    else if c.isDigit then (skipNumber (c :: r)).map (none, ·)
    else .error (.at .expectedValue (c :: r))

/-- Passes over the colon after a key. -/
def skipColon (cs : List Char) : Except Fault (List Char) :=
  match skipSpace cs with
  | [] => .error (.at .endInObject [])
  | c :: r => if c = ':' then .ok r else .error (.at .expectedColon (c :: r))

/-- Passes over a key and the colon after it. -/
def skipKey (cs : List Char) : Except Fault (List Char) :=
  match skipSpace cs with
  | [] => .error (.at .endInObject [])
  | c :: r =>
    if c = '"' then
      match skipString r with
      | .error e => .error e
      | .ok rest => skipColon rest
    else .error (.at .keyNotString (c :: r))

/-! ### What is left is shorter -/

private theorem lt_of_map_none {x : Except Fault (List Char)} {frame : Option Frame}
    {rest : List Char} {n : Nat} (h : x.map (none, ·) = .ok (frame, rest))
    (hx : ∀ r, x = .ok r → r.length < n) : rest.length < n := by
  cases x with
  | error e => cases h
  | ok r => cases h; exact hx _ rfl

theorem length_skipStart_lt {cs rest : List Char} {frame : Option Frame}
    (h : skipStart cs = .ok (frame, rest)) : rest.length < cs.length := by
  rw [skipStart] at h
  split at h
  · cases h
  next c r hr =>
    have hc := length_lt_of_skipSpace hr
    split at h
    · cases h; exact hc
    split at h
    · cases h; exact hc
    split at h
    · exact lt_of_map_none h fun r' h' => by have := length_skipString_lt h'; omega
    split at h
    · exact lt_of_map_none h fun r' h' => by have := length_readWord_le h'; omega
    split at h
    · exact lt_of_map_none h fun r' h' => by have := length_readWord_le h'; omega
    split at h
    · exact lt_of_map_none h fun r' h' => by have := length_readWord_le h'; omega
    split at h
    · exact lt_of_map_none h fun r' h' => by have := length_skipNumber_lt h'; omega
    split at h
    · exact lt_of_map_none h fun r' h' => by have := length_skipNumber_lt h'; simp at this; omega
    · cases h

theorem length_skipColon_lt {cs rest : List Char} (h : skipColon cs = .ok rest) :
    rest.length < cs.length := by
  rw [skipColon] at h
  split at h
  · cases h
  next c r hr =>
    split at h
    · cases h; exact length_lt_of_skipSpace hr
    · cases h

theorem length_skipKey_lt {cs rest : List Char} (h : skipKey cs = .ok rest) :
    rest.length < cs.length := by
  rw [skipKey] at h
  split at h
  · cases h
  next c r hr =>
    split at h
    · split at h
      · cases h
      next rest' h' =>
        have := length_lt_of_skipSpace hr
        have := length_skipString_lt h'
        have := length_skipColon_lt h
        omega
    · cases h

/-! ### Values -/

mutual

/-- Passes over a value inside of the frames of a stack, and over all that these still hold. -/
def skipInto (stack : List Frame) (cs : List Char) : Except Fault (List Char) :=
  match h : skipStart cs with
  | .error e => .error e
  | .ok (none, r) =>
    have := length_skipStart_lt h
    skipOut stack r
  | .ok (some .list, r) =>
    have := length_skipStart_lt h
    match hr : skipSpace r with
    | [] => .error (.at .endInList [])
    | c :: r' =>
      have := length_lt_of_skipSpace hr
      if c = ']' then skipOut stack r' else skipInto (.list :: stack) r
  | .ok (some .object, r) =>
    have := length_skipStart_lt h
    match hr : skipSpace r with
    | [] => .error (.at .endInObject [])
    | c :: r' =>
      have := length_lt_of_skipSpace hr
      if c.toNat = 0x7D then skipOut stack r'
      else
        match hk : skipKey r with
        | .error e => .error e
        | .ok rest =>
          have := length_skipKey_lt hk
          skipInto (.object :: stack) rest
termination_by cs.length

/-- Passes over what the frames of a stack still hold after a value. -/
def skipOut (stack : List Frame) (cs : List Char) : Except Fault (List Char) :=
  match stack with
  | [] => .ok cs
  | frame :: stack =>
    match hr : skipSpace cs with
    | [] =>
      match frame with
      | .list => .error (.at .endInList [])
      | .object => .error (.at .endInObject [])
    | c :: r =>
      have := length_lt_of_skipSpace hr
      match frame with
      | .list =>
        if c = ',' then skipInto (.list :: stack) r
        else if c = ']' then skipOut stack r
        else .error (.at .expectedListCommaOrEnd (c :: r))
      | .object =>
        if c = ',' then
          match hk : skipKey r with
          | .error e => .error e
          | .ok rest =>
            have := length_skipKey_lt hk
            skipInto (.object :: stack) rest
        else if c.toNat = 0x7D then skipOut stack r
        else .error (.at .expectedObjectCommaOrEnd (c :: r))
termination_by cs.length

end

mutual

theorem length_skipInto_lt {stack : List Frame} {cs rest : List Char}
    (h : skipInto stack cs = .ok rest) : rest.length < cs.length := by
  rw [skipInto] at h
  split at h
  · cases h
  next r hs =>
    have hlt := length_skipStart_lt hs
    have := length_skipOut_le h
    omega
  next r hs =>
    have := length_skipStart_lt hs
    split at h
    · cases h
    next c r' hr =>
      have := length_lt_of_skipSpace hr
      split at h
      · have := length_skipOut_le h; omega
      · have := length_skipInto_lt h; omega
  next r hs =>
    have := length_skipStart_lt hs
    split at h
    · cases h
    next c r' hr =>
      have := length_lt_of_skipSpace hr
      split at h
      · have := length_skipOut_le h; omega
      · split at h
        · cases h
        next rest' hk =>
          have hlt := length_skipKey_lt hk
          have := length_skipInto_lt h; omega
termination_by cs.length

theorem length_skipOut_le {stack : List Frame} {cs rest : List Char}
    (h : skipOut stack cs = .ok rest) : rest.length ≤ cs.length := by
  cases stack with
  | nil => rw [skipOut] at h; cases h; exact Nat.le_refl _
  | cons frame stack =>
    unfold skipOut at h
    dsimp only at h
    split at h
    · cases frame <;> cases h
    next c r hr =>
      have := length_lt_of_skipSpace hr
      cases frame with
      | list =>
        simp only at h
        split at h
        · have := length_skipInto_lt h; omega
        split at h
        · have := length_skipOut_le h; omega
        · cases h
      | object =>
        simp only at h
        split at h
        · split at h
          · cases h
          next rest' hk =>
            have hlt := length_skipKey_lt hk
            have := length_skipInto_lt h; omega
        split at h
        · have := length_skipOut_le h; omega
        · cases h
termination_by cs.length

end

/-- Passes over one value. -/
def skipValue (cs : List Char) : Except Fault (List Char) :=
  skipInto [] cs

theorem length_skipValue_lt {cs rest : List Char} (h : skipValue cs = .ok rest) :
    rest.length < cs.length :=
  length_skipInto_lt h

end Screening.Json
