/-
Decimal numbers and their notations.

A decimal is `coefficient * 10 ^ exponent`. Positional notation writes all zeros and never an
exponent; scientific notation has one digit before the point.

* `positional`, `scientific`: the two notations of a magnitude.
-/

namespace Screening

/-- The number `coefficient * 10 ^ exponent`. -/
structure Decimal where
  coefficient : Nat
  exponent : Int
  deriving DecidableEq

namespace Decimal

/-- The digits of the coefficient. -/
def digits (d : Decimal) : List Char :=
  Nat.toDigits 10 d.coefficient

/-- The number of digits before the decimal point; zero or less for a number below one tenth
or one. -/
def pointPlace (d : Decimal) : Int :=
  d.digits.length + d.exponent

/-- Positional notation, with a point only where digits follow it. -/
def positional (d : Decimal) : List Char :=
  if 0 ≤ d.exponent then d.digits ++ List.replicate d.exponent.toNat '0'
  else if 0 < d.pointPlace then
    d.digits.take d.pointPlace.toNat ++ '.' :: d.digits.drop d.pointPlace.toNat
  else '0' :: '.' :: List.replicate (-d.pointPlace).toNat '0' ++ d.digits

/-- Scientific notation: one digit, a point if there are more, and the exponent with its sign. -/
def scientific (d : Decimal) : List Char :=
  let power := d.pointPlace - 1
  let mark := if power < 0 then '-' else '+'
  d.digits.take 1 ++ (if d.digits.length = 1 then [] else '.' :: d.digits.drop 1) ++
    'e' :: mark :: Nat.toDigits 10 power.natAbs

end Decimal

end Screening
