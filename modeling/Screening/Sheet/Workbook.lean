/-
Workbooks: sheets of values at positions.

A sheet keeps a value for each position that holds one; an empty value or an empty text is never
kept. What is in use of a sheet is the smallest rectangle that holds its values.

* `Sheet.put`, `Sheet.valueAt`: a value into a sheet, and the value at a place.
* `Sheet.usedRange?`: the rectangle in use.
* `Sheet.listing`: the values in the order of rows and columns.
-/
import Screening.Sheet.Range

namespace Screening

/-- A place in a sheet. Row numbers have 32 bits, column numbers have 16. -/
structure Position where
  row : UInt32
  column : UInt16
  deriving DecidableEq

namespace Position

/-- The place of a row and a column; of each index only the low bits that fit are kept. -/
def ofIndices (row column : Nat) : Position :=
  ⟨row.toUInt32, column.toUInt16⟩

/-- Whether a place comes no later than another, row by row. -/
def le (p q : Position) : Bool :=
  p.row < q.row || p.row == q.row && p.column ≤ q.column

end Position

/-- Whether a sheet keeps a value: neither an empty one nor the empty text. -/
def Value.isKept : Value → Bool
  | .empty => false
  | .text s => s ≠ ""
  | _ => true

/-! ### Sheets -/

/-- A sheet: its name, and its values at their places, the latest first. -/
structure Sheet where
  name : String
  cells : List (Position × Value)
  kept : ∀ cell ∈ cells, cell.2.isKept = true
  deriving DecidableEq

namespace Sheet

/-- A sheet without values. -/
def empty (name : String) : Sheet :=
  ⟨name, [], by simp⟩

/-- The sheet with a value at a place. A value that is not kept leaves the sheet as it is. -/
def put (sheet : Sheet) (place : Position) (value : Value) : Sheet :=
  if h : value.isKept = true then
    ⟨sheet.name, (place, value) :: sheet.cells, by
      intro cell hc
      rcases List.mem_cons.1 hc with rfl | hc
      · exact h
      · exact sheet.kept cell hc⟩
  else sheet

/-- The sheet of some values, put in order. -/
def ofCells (name : String) (cells : List (Position × Value)) : Sheet :=
  cells.foldl (fun sheet (place, value) => sheet.put place value) (.empty name)

/-- The value in a row and a column. -/
def valueAt (sheet : Sheet) (row column : Nat) : Value :=
  match sheet.cells.find? fun (p, _) => p.row.toNat == row && p.column.toNat == column with
  | some (_, value) => value
  | none => .empty

/-- A value that is put is found at its place, and everything else stays where it was. -/
theorem valueAt_put (sheet : Sheet) (place : Position) (value : Value) (row column : Nat) :
    (sheet.put place value).valueAt row column =
      if value.isKept ∧ place.row.toNat = row ∧ place.column.toNat = column then value
      else sheet.valueAt row column := by
  by_cases hk : value.isKept = true
  · by_cases hp : place.row.toNat = row ∧ place.column.toNat = column
    · simp [put, valueAt, hk, hp]
    · have hb : (place.row.toNat == row && place.column.toNat == column) = false := by
        simpa using hp
      simp [put, valueAt, hk, hp, hb]
  · simp [put, hk]

/-- The rectangle of a sheet's values between two corners. -/
def range (sheet : Sheet) (top left bottom right : Nat) : Range where
  top
  left
  bottom
  right
  rows :=
    (List.range' top (bottom - top + 1)).map fun row =>
      (List.range' left (right - left + 1)).map fun column => sheet.valueAt row column

/-- The smallest rectangle that holds all values; none of a sheet without values. -/
def usedRange? (sheet : Sheet) : Option Range := do
  let rows := sheet.cells.map fun (p, _) => p.row.toNat
  let columns := sheet.cells.map fun (p, _) => p.column.toNat
  let top ← rows.min?
  let bottom ← rows.max?
  let left ← columns.min?
  let right ← columns.max?
  some (sheet.range top left bottom right)

/-- The places that hold values, row by row. -/
def places (sheet : Sheet) : List Position :=
  (sheet.cells.map Prod.fst).eraseDups.mergeSort Position.le

/-- The values with their places, row by row. -/
def listing (sheet : Sheet) : List (Position × Value) :=
  sheet.places.map fun p => (p, sheet.valueAt p.row.toNat p.column.toNat)

end Sheet

/-! ### Workbooks -/

/-- The sheets of a workbook in order. -/
structure Workbook where
  sheets : List Sheet
  deriving DecidableEq

end Screening
