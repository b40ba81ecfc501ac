/-
Cells and rows as the screening reads them.

Every cell has a text, and every column of a row has one, the empty text beyond its end. A cell is
blank when it is empty or holds white space only; an error cell reads as the empty text but is not
blank.

* `Cell.text`, `Cell.isBlank`: the text of a cell, and whether it counts as empty.
* `Row.get`: the trimmed text of a column.
-/
import Screening.Calendar.DateTime
import Screening.Number.Shortest
import Screening.Text.Space

namespace Screening

/-! ### Cells -/

/-- The value of a cell. -/
inductive Cell where
  | empty
  | text (s : String)
  | float (x : Binary64)
  | int (n : Int)
  | bool (b : Bool)
  | dateTime (t : DateTime)
  /-- A cell that holds an error such as `#N/A` instead of a value. -/
  | error (name : String)
  deriving DecidableEq

/-- The text of a number: below `10 ^ 15` a whole number is written like an integer, without the
sign of a negative zero. -/
def Binary64.cellText (x : Binary64) : String :=
  if x.isWhole && x.units < Nat.pow 10 15 * Binary64.one then toString x.truncate else x.text

namespace Cell

/-- The text of a cell, with its white space. -/
def asText : Cell → String
  | empty => ""
  | text s => s
  | float x => x.cellText
  | int n => toString n
  | bool b => if b then "true" else "false"
  | dateTime t => t.text
  | error _ => ""

/-- Whether a cell counts as empty. -/
def isBlank : Cell → Bool
  | empty => true
  | text s => Text.isBlank s
  | _ => false

end Cell

/-! ### Rows -/

/-- The cells of a row from the first column on. A row may end before the sheet does. -/
abbrev Row := List Cell

namespace Row

/-- The trimmed text of a column; empty beyond the end of the row. -/
def get (row : Row) (column : Nat) : String :=
  match row[column]? with
  | some cell => Text.trim cell.asText
  | none => ""

/-- Whether all cells of a row are blank; so is a row without cells. -/
def isBlank (row : Row) : Bool :=
  row.all Cell.isBlank

@[simp] theorem isBlank_nil : isBlank [] = true := rfl

/-- A row is blank when its first cell is and the others are. -/
@[simp] theorem isBlank_cons (cell : Cell) (row : Row) :
    isBlank (cell :: row) = (cell.isBlank && isBlank row) := rfl

end Row

end Screening
