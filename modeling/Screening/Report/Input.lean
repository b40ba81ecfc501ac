/-
The workbook that a report is made of.

The name of a file tells its format by its ending; a name without a known one leaves that to the
content. The first sheet is read from its first row and column on.

* `Disk.workbook`: the workbook in a file.
* `Workbook.firstRows`: the rows of the first sheet.
* `Disk.report`: the report of a workbook in a file.
-/
import Screening.Error

namespace Screening

/-- The endings of names that promise another format than the workbooks here have. -/
def otherFormats : List Path.Segment :=
  ["xls", "xla", "xlsb", "ods"].map Utf8.ofString

/-- The workbook in a file. -/
def Disk.workbook (disk : Disk) (p : Path) : Except Error Workbook :=
  if !disk.contains p then .error (.fileNotFound p)
  else if p.extension?.any otherFormats.contains then .error .notWorkbook
  else
    match disk.read p with
    | .ok (.workbook w) => .ok w
    | _ => .error .notWorkbook

/-- A sheet as it is read: its name and its rows. -/
structure SheetRows where
  name : String
  rows : List Row
  deriving DecidableEq

/-- The rows of the first sheet. There must be one, with a value in it. -/
def Workbook.firstRows (workbook : Workbook) : Except Error SheetRows :=
  match workbook.sheets with
  | [] => .error (.input .noSheets)
  | sheet :: _ =>
    match sheet.usedRange? with
    | none => .error (.input (.emptySheet sheet.name))
    | some range => (range.toRows.mapError .serial).map (⟨sheet.name, ·⟩)

/-- The rows of the first sheet of a workbook in a file. -/
def Disk.firstRows (disk : Disk) (p : Path) : Except Error SheetRows := do
  let workbook ← disk.workbook p
  workbook.firstRows

/-- The report of a workbook in a file. -/
def Disk.report (disk : Disk) (p : Path) (criteria : Criteria) : Except Error Report := do
  let sheet ← disk.firstRows p
  (Report.assemble sheet.rows criteria).mapError .input

end Screening
