/-
Tables written as workbooks.

A table becomes a workbook of one sheet, each text at its row and column. The first row is the
header. A sheet has `2 ^ 20` rows and `2 ^ 14` columns, and a cell holds a text of up to 32767
characters; what does not fit is refused.

* `Workbook.ofTable`: the workbook of a table.
-/
import Screening.Sheet.Workbook

namespace Screening

/-! ### What does not fit -/

/-- What can be wrong with a text to be written. -/
inductive Misfit where
  | textTooLong
  | outsideSheet
  deriving DecidableEq

/-- The wording of what is wrong with a text. -/
def Misfit.message : Misfit → String
  | textTooLong => "String exceeds Excel's limit of 32,767 characters."
  | outsideSheet => "Row or column exceeds Excel's allowed limits (1,048,576 x 16,384)"

/-- A text that does not fit, in the header or in another row. -/
structure WriteError where
  inHeader : Bool
  misfit : Misfit
  deriving DecidableEq

/-- The message of a text that does not fit. -/
def WriteError.message (e : WriteError) : String :=
  "Excel error: " ++ (if e.inHeader then "ヘッダー書き込みエラー" else "値書き込みエラー") ++ ": " ++
    e.misfit.message

/-! ### Writing texts -/

namespace Sheet

/-- The number of rows of a sheet. -/
def rowLimit : Nat := 1048576

/-- The number of columns of a sheet. -/
def columnLimit : Nat := 16384

/-- The longest text of a cell, in characters. -/
def textLimit : Nat := 32767

/-- Writes a text at a place. -/
def write (sheet : Sheet) (place : Position) (text : String) : Except Misfit Sheet :=
  if rowLimit ≤ place.row.toNat ∨ columnLimit ≤ place.column.toNat then .error .outsideSheet
  else if textLimit < text.length then .error .textTooLong
  else .ok (sheet.put place (.text text))

/-- Writes the texts of a row from a column on. Below the header empty texts are passed over. -/
def writeRow (row column : Nat) (sheet : Sheet) : List String → Except Misfit Sheet
  | [] => .ok sheet
  | text :: texts =>
    if row ≠ 0 ∧ text = "" then writeRow row (column + 1) sheet texts
    else
      match sheet.write (.ofIndices row column) text with
      | .error e => .error e
      | .ok sheet => writeRow row (column + 1) sheet texts

/-- Writes the rows of a table from a row on. -/
def writeRows (row : Nat) (sheet : Sheet) : List (List String) → Except WriteError Sheet
  | [] => .ok sheet
  | texts :: table =>
    match writeRow row 0 sheet texts with
    | .error misfit => .error ⟨row = 0, misfit⟩
    | .ok sheet => writeRows (row + 1) sheet table

/-- The name of the sheet of a report. -/
def reportName : String := "Processed Report"

end Sheet

/-- The workbook of a table, the header first. -/
def Workbook.ofTable (table : List (List String)) : Except WriteError Workbook :=
  (Sheet.writeRows 0 (.empty Sheet.reportName) table).map fun sheet => ⟨[sheet]⟩

end Screening
