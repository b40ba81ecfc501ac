/-
Double precision numbers as 64 bits, with exact arithmetic.

A finite number is a whole number of units, the unit being the smallest positive double
`2 ^ -1074`; so every operation is arithmetic on natural numbers followed by one rounding to the
nearest double, ties to the even significand. Numbers are compared as bits only: two zeros differ,
and so do two NaNs of different payload.

* `nearest`: the double nearest to a ratio of units.
* `add`, `mul`, `div`: the exact result, rounded once.
-/

namespace Screening

/-- A double precision number, given by its bits. -/
structure Binary64 where
  bits : UInt64
  deriving DecidableEq

namespace Binary64

/-! ### Fields -/

/-- Whether the sign bit is set. -/
def isNegative (x : Binary64) : Bool :=
  Nat.pow 2 63 ≤ x.bits.toNat

/-- The eleven bits of the biased exponent. -/
def exponentField (x : Binary64) : Nat :=
  x.bits.toNat / Nat.pow 2 52 % Nat.pow 2 11

/-- The fifty-two bits after the exponent. -/
def fractionField (x : Binary64) : Nat :=
  x.bits.toNat % Nat.pow 2 52

def isFinite (x : Binary64) : Bool :=
  x.exponentField != 2047

def isInfinite (x : Binary64) : Bool :=
  x.exponentField == 2047 && x.fractionField == 0

def isNaN (x : Binary64) : Bool :=
  x.exponentField == 2047 && x.fractionField != 0

/-- The exponent of the spacing between a finite number and its neighbours, in units. -/
def spacing (x : Binary64) : Nat :=
  max x.exponentField 1 - 1

/-- The significand of a finite number, with its leading bit. -/
def significand (x : Binary64) : Nat :=
  if x.exponentField = 0 then x.fractionField else Nat.pow 2 52 + x.fractionField

/-- The magnitude of a finite number in units of `2 ^ -1074`. -/
def units (x : Binary64) : Nat :=
  x.significand * Nat.pow 2 x.spacing

/-- The units in one. -/
def one : Nat := Nat.pow 2 1074

/-- A finite number in units, with its sign. -/
def signedUnits (x : Binary64) : Int :=
  if x.isNegative then -x.units else x.units

/-! ### Rounding -/

/-- The sign bit of a sign. -/
def signBit (negative : Bool) : Nat :=
  if negative then Nat.pow 2 63 else 0

def infinity (negative : Bool) : Binary64 :=
  ⟨UInt64.ofNat (signBit negative + 2047 * Nat.pow 2 52)⟩

def nan : Binary64 :=
  ⟨UInt64.ofNat (2047 * Nat.pow 2 52 + Nat.pow 2 51)⟩

/-- The quotient rounded to the nearest whole number, ties to even. -/
def divEven (num den : Nat) : Nat :=
  let q := num / den
  let r := num % den
  if 2 * r < den then q
  else if den < 2 * r then q + 1
  else q + q % 2

/-- The double nearest to `num / den` units, ties to the even significand; infinite from half a
spacing above the largest finite number on. A significand that rounds up to the next power of two
carries into the exponent by itself. -/
def nearest (negative : Bool) (num den : Nat) : Binary64 :=
  let spacing := (num / den).log2 - 52
  let word := spacing * Nat.pow 2 52 + divEven num (den * Nat.pow 2 spacing)
  if word < 2047 * Nat.pow 2 52 then ⟨UInt64.ofNat (signBit negative + word)⟩
  else infinity negative

/-- The double nearest to a natural number. -/
def ofNat (n : Nat) : Binary64 :=
  nearest false (n * one) 1

/-! ### Arithmetic -/

def neg (x : Binary64) : Binary64 :=
  ⟨x.bits ^^^ 0x8000000000000000⟩

/-- The sum. An exact sum of zero is positive unless both terms are negative. -/
def add (x y : Binary64) : Binary64 :=
  if x.isNaN || y.isNaN then nan
  else if x.isInfinite then
    if y.isInfinite && x.isNegative != y.isNegative then nan else x
  else if y.isInfinite then y
  else
    let sum := x.signedUnits + y.signedUnits
    let negative := if sum = 0 then x.isNegative && y.isNegative else decide (sum < 0)
    nearest negative sum.natAbs 1

/-- The product. -/
def mul (x y : Binary64) : Binary64 :=
  let negative := x.isNegative != y.isNegative
  if x.isNaN || y.isNaN then nan
  else if x.isInfinite || y.isInfinite then
    if (x.isFinite && x.units == 0) || (y.isFinite && y.units == 0) then nan
    else infinity negative
  else nearest negative (x.units * y.units) one

/-- The quotient. -/
def div (x y : Binary64) : Binary64 :=
  let negative := x.isNegative != y.isNegative
  if x.isNaN || y.isNaN || (x.isInfinite && y.isInfinite) then nan
  else if x.isInfinite then infinity negative
  else if y.isInfinite then nearest negative 0 1
  else if y.units = 0 then if x.units = 0 then nan else infinity negative
  else nearest negative (x.units * one) y.units

/-! ### Whole numbers -/

/-- Whether a number is at least a natural number; a NaN is not. -/
def atLeast (x : Binary64) (n : Nat) : Bool :=
  !x.isNaN && (if x.isInfinite then !x.isNegative else decide ((n * one : Nat) ≤ x.signedUnits))

/-- Whether a finite number is whole. -/
def isWhole (x : Binary64) : Bool :=
  x.isFinite && x.units % one == 0

/-- The whole part of a finite number, toward zero. -/
def truncate (x : Binary64) : Int :=
  x.signedUnits.tdiv one

/-- A finite number rounded to the nearest whole number, halves away from zero. -/
def roundAway (x : Binary64) : Int :=
  let n : Nat := (2 * x.units + one) / (2 * one)
  if x.isNegative then -n else n

end Binary64

end Screening
