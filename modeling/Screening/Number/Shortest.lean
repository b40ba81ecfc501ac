/-
The shortest decimal that reads back as the same double.

Every real number in an interval around a finite double rounds to it. Among the decimals of that
interval the one with the fewest digits is chosen, and of two with equally few the nearer; where
both are equally near, the notation says which. Grids of ever smaller powers of ten are tried in
turn: if a point of a grid lies in the interval, so does one of the two points next to the double,
so only those two are tested.

* `shortest`: the chosen decimal of a magnitude.
* `text`: positional notation of any double, ties going up.
-/
import Screening.Number.Binary64
import Screening.Number.Decimal

namespace Screening.Binary64

/-! ### The interval -/

/-- The reals that round to a positive double, in quarter units: the double, the two ends, and
whether the ends belong to it. -/
structure Interval where
  low : Nat
  middle : Nat
  high : Nat
  closed : Bool

/-- The interval of a finite positive double. Below a power of two the spacing is halved, unless
it is the smallest already; the ends round to the even significand. -/
def interval (x : Binary64) : Interval :=
  let step := Nat.pow 2 x.spacing
  let below := if x.significand = Nat.pow 2 52 ∧ 0 < x.spacing then step else 2 * step
  { low := 4 * x.units - below
    middle := 4 * x.units
    high := 4 * x.units + 2 * step
    closed := x.significand % 2 = 0 }

/-- Whether `n / scale` quarter units lie in the interval, given the interval multiplied by
`factor`. -/
def Interval.holds (i : Interval) (factor scale n : Nat) : Bool :=
  if i.closed then i.low * factor ≤ n * scale && n * scale ≤ i.high * factor
  else i.low * factor < n * scale && n * scale < i.high * factor

/-- What to take of two neighbouring decimals that are equally near: the greater, or the one with
the even coefficient. -/
inductive Tie where
  | up
  | even
  deriving DecidableEq

/-- Of `floor` and its successor, the nearer to `floor + rest / scale`. -/
def Tie.choose (tie : Tie) (floor rest scale : Nat) : Nat :=
  if 2 * rest < scale then floor
  else if scale < 2 * rest then floor + 1
  else match tie with
    | .up => floor + 1
    | .even => floor + floor % 2

/-- The point of the grid of `10 ^ exponent` that stands for the interval, if one of the two
points around its middle lies in it. -/
def Interval.pointOn? (i : Interval) (tie : Tie) (exponent : Int) : Option Nat :=
  let factor := Nat.pow 10 (-exponent).toNat
  let scale := 4 * one * Nat.pow 10 exponent.toNat
  let floor := i.middle * factor / scale
  let rest := i.middle * factor % scale
  match i.holds factor scale floor, i.holds factor scale (floor + 1) with
  | true, true => some (tie.choose floor rest scale)
  | true, false => some floor
  | false, true => some (floor + 1)
  | false, false => none

/-! ### The search -/

/-- Tries the grid of `10 ^ exponent` and then finer ones, `count` more of them. -/
def Interval.firstPoint (i : Interval) (tie : Tie) : Nat → Int → Decimal
  | 0, exponent => ⟨(i.pointOn? tie exponent).getD 0, exponent⟩
  | count + 1, exponent =>
    match i.pointOn? tie exponent with
    | some n => ⟨n, exponent⟩
    | none => i.firstPoint tie count (exponent - 1)

/-- An exponent of ten above the magnitude of a positive double: `30103 / 100000` is a little more
than the logarithm of two. -/
def startExponent (x : Binary64) : Int :=
  ((x.units.log2 : Int) - 1073) * 30103 / 100000 + 1

/-- The shortest decimal that reads back as the magnitude of a finite double. Seventeen digits
always suffice. -/
def shortest (tie : Tie) (x : Binary64) : Decimal :=
  if x.units = 0 then ⟨0, 0⟩ else x.interval.firstPoint tie 20 x.startExponent

/-! ### The default text -/

/-- The shortest digits in positional notation, with a sign also on a negative zero. -/
def text (x : Binary64) : String :=
  let sign := if x.isNegative then ['-'] else []
  if x.isNaN then "NaN"
  else if x.isInfinite then String.ofList (sign ++ "inf".toList)
  else String.ofList (sign ++ (x.shortest .up).positional)

end Screening.Binary64
