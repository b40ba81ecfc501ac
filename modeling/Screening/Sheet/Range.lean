/-
The rectangle of values that a sheet hands over, and its rows at their places in the sheet.

A rectangle starts at the first row and column in use. Its rows are put back to their places: empty
rows above, empty cells to the left. Setting a value outside makes the rectangle grow; growing
downward alone leaves one spare row of empty values below the new one.

* `Range.ofSize`, `Range.set`: an empty rectangle, and a value put into one.
* `Range.toRows`: the rows of the sheet from its first row on.
-/
import Screening.Sheet.Value

namespace Screening

/-- A rectangle of values. Its top left corner is its start; `bottom` and `right` are its last row
and column. Spare rows may follow the last row. -/
structure Range where
  top : Nat
  left : Nat
  bottom : Nat
  right : Nat
  rows : List (List Value)
  deriving DecidableEq

namespace Range

/-- The number of columns. -/
def width (r : Range) : Nat :=
  r.right - r.left + 1

/-- The number of rows, without spare ones. -/
def height (r : Range) : Nat :=
  r.bottom - r.top + 1

/-- Empty values. -/
def emptyRow (width : Nat) : List Value :=
  List.replicate width .empty

/-- The rectangle between two corners, filled with empty values. -/
def ofSize (top left bottom right : Nat) : Range where
  top
  left
  bottom
  right
  rows := List.replicate (bottom - top + 1) (emptyRow (right - left + 1))

/-- The rectangle with its last row moved down to `row`, and one spare row more. -/
def growDown (r : Range) (row : Nat) : Range :=
  { r with
    bottom := row
    rows := r.rows ++ List.replicate (row - r.bottom + 1) (emptyRow r.width) }

/-- The rectangle with its last column moved right to `column`, and its last row down to `row` if
that is below. -/
def growRight (r : Range) (row column : Nat) : Range :=
  let width := column - r.left + 1
  { r with
    bottom := max r.bottom row
    right := column
    rows := r.rows.map (fun cells => cells ++ emptyRow (width - r.width)) ++
      List.replicate (row - r.bottom) (emptyRow width) }

/-- The rectangle grown to hold a position below or to the right of it. -/
def growTo (r : Range) (row column : Nat) : Range :=
  if r.right < column then r.growRight row column
  else if r.bottom < row then r.growDown row
  else r

/-- The rectangle with a value at a position of the sheet. Above or left of the rectangle there is
no place for a value. -/
def set (r : Range) (row column : Nat) (value : Value) : Range :=
  if row < r.top ∨ column < r.left then r
  else
    let grown := r.growTo row column
    { grown with
      rows := grown.rows.modify (row - r.top) fun cells => cells.set (column - r.left) value }

/-- The cells of a row of the rectangle at their columns in the sheet. -/
def placeRow (left : Nat) (values : List Value) : Except Serial.Overflow Row :=
  (List.replicate left Cell.empty ++ ·) <$> values.mapM Value.toCell

/-- The rows of the sheet down to the last row of the rectangle, at their places. -/
def toRows (r : Range) : Except Serial.Overflow (List Row) :=
  (List.replicate r.top [] ++ ·) <$> r.rows.mapM (placeRow r.left)

end Range

end Screening
