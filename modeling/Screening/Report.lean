/-
Reports.

A report holds the lines of the rows of a sheet, in their order, and the number of blank rows that
were passed over. As a table it is a header and its lines; its summary counts the lines of each
status.

* `Report.assemble`: the report of the rows of a sheet.
* `Report.table`, `Report.summary`, `Report.toJson`: what a report is shown as.
-/
import Screening.Json.Tree
import Screening.Report.Line

namespace Screening

/-- What can be wrong with a workbook that was read. -/
inductive InputError where
  | noSheets
  /-- The sheet of this name has no cell in use. -/
  | emptySheet (name : String)
  | noRows
  | noContent
  deriving DecidableEq

/-- The wording of what is wrong with a workbook. -/
def InputError.reason : InputError → String
  | noSheets => "workbook has no sheets"
  | emptySheet name => "sheet '" ++ name ++ "' has no rows"
  | noRows => "sheet has no rows"
  | noContent => "sheet has no readable content"

/-- The lines of a report, and the number of blank rows that gave none. -/
structure Report where
  lines : List Line
  skipped : Nat
  deriving DecidableEq

namespace Report

/-! ### From the rows of a sheet -/

/-- What rows have given so far: their lines, the latest first, and the number of blank rows. -/
structure Gathered where
  lines : List Line
  blank : Nat

/-- Before any row nothing is gathered. -/
def Gathered.start : Gathered := ⟨[], 0⟩

/-- What is gathered with one more row: its line, or one more blank row. -/
def Gathered.add (criteria : Criteria) (gathered : Gathered) (row : Row) : Gathered :=
  match Line.ofRow? row criteria with
  | some line => { gathered with lines := line :: gathered.lines }
  | none => { gathered with blank := gathered.blank + 1 }

/-- The report of the rows of a sheet. There must be a row, and one that is not blank. -/
def assemble (rows : List Row) (criteria : Criteria) : Except InputError Report :=
  if rows.isEmpty then .error .noRows
  else
    let gathered := rows.foldl (Gathered.add criteria) .start
    if gathered.lines.isEmpty then .error .noContent
    else .ok ⟨gathered.lines.reverse, gathered.blank⟩

/-! ### As a table -/

/-- The names of the columns. -/
def header : List String :=
  ["Status", "File name", "Ref No", "Customer Name", "City", "CTR",
    "RPL 1", "RPL 2", "RPL 3", "RPL 4", "RPL 5",
    "Denial Type 1", "Denial Type 2", "Denial Type 3", "Denial Type 4", "Denial Type 5",
    "Splid 1", "Splid 2", "Splid 3", "Splid 4", "Splid 5"]

/-- The header has a name for each column. -/
@[simp] theorem length_header : header.length = Line.width := rfl

/-- Behind the other names stand those of the slots: the label of each key in their order, with the
numbers of its slots. -/
theorem header_eq_flatMap :
    header = ["Status", "File name", "Ref No", "Customer Name", "City", "CTR"] ++
      FieldKey.all.flatMap fun key =>
        (List.range slotCount).map fun i => key.label ++ " " ++ toString (i + 1) := by
  decide

/-- The header and the texts of the lines. -/
def table (report : Report) : List (List String) :=
  header :: report.lines.map Line.cells

/-- The table of a report as indented JSON. -/
def toJson (report : Report) : String :=
  (Json.Tree.list (report.table.map Json.Tree.ofStrings)).indented

/-! ### In numbers -/

/-- The number of lines of a status. -/
def count (report : Report) (status : Status) : Nat :=
  report.lines.countP (·.status = status)

/-- The numbers of a report. -/
structure Summary where
  total : Nat
  skipped : Nat
  counts : List (Status × Nat)
  deriving DecidableEq

/-- The summary's number of lines of a status; zero if it has none. -/
def Summary.count (summary : Summary) (status : Status) : Nat :=
  ((summary.counts.find? (·.1 = status)).map Prod.snd).getD 0

/-- The number of lines, of blank rows, and of lines of each status. -/
def summary (report : Report) : Summary where
  total := report.lines.length
  skipped := report.skipped
  counts := Status.all.map fun status => (status, report.count status)

end Report

end Screening
