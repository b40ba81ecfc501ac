/-
Workbooks as text.

As text a workbook is a JSON list of its sheets. A sheet is an object of its name and of its rows
from the first row and column on, each a list of the texts of its cells.

* `Workbook.toJson`, `Workbook.ofJson?`: the text of a workbook, and the workbook of a text.
-/
import Screening.Json.Reader
import Screening.Json.Tree
import Screening.Sheet.Workbook

namespace Screening

namespace Sheet

/-- The texts of a sheet from its first row and column on. -/
def texts (sheet : Sheet) : List (List String) :=
  match sheet.usedRange? with
  | none => []
  | some used =>
    (List.range (used.bottom + 1)).map fun row =>
      (List.range (used.right + 1)).map fun column => (sheet.valueAt row column).shown

/-- The sheet of some texts. -/
def ofTexts (name : String) (rows : List (List String)) : Sheet :=
  .ofCells name
    (rows.mapIdx fun row texts =>
      texts.mapIdx fun column text => (Position.ofIndices row column, Value.text text)).flatten

/-- The reader of a sheet. -/
def reader : Json.Reader Sheet :=
  (Json.Reader.record "Sheet"
    [⟨"name", Json.Reader.string.map fun name sheet => { sheet with fst := name }⟩,
      ⟨"rows", (Json.Reader.list (.list .string)).map fun rows sheet => { sheet with snd := rows }⟩]
    ("", [])).map fun (name, rows) => ofTexts name rows

/-- The object of a sheet. -/
def tree (sheet : Sheet) : Json.Tree :=
  .object [("name", .text sheet.name), ("rows", .list (sheet.texts.map Json.Tree.ofStrings))]

end Sheet

namespace Workbook

/-- The text of a workbook. -/
def toJson (workbook : Workbook) : String :=
  (Json.Tree.list (workbook.sheets.map Sheet.tree)).indented

/-- The workbook of a text. -/
def ofJson? (text : String) : Option Workbook :=
  (((Json.Reader.list Sheet.reader).parse text).toOption).map Workbook.mk

end Workbook

end Screening
