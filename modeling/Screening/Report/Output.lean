/-
Where a report goes.

A report is written as a workbook or as JSON. Unless a path is given, it goes beside its input, the
name of the input's stem with `_processed` after it.

* `Path.beside`: the path of the report of an input.
* `Report.save`: a report in a file.
-/
import Screening.Error

namespace Screening

/-- The form of a written report. -/
inductive Format where
  | workbook
  | json
  deriving DecidableEq

/-- The ending of the name of a written report. -/
def Format.ending : Format → String
  | workbook => "xlsx"
  | json => "json"

/-- The stem of the report of an input; a stem that is missing or no text becomes `report`. -/
def Path.reportStem (input : Path) : Segment :=
  match input.stem? with
  | some stem => if (Utf8.decode? stem).isSome then stem else Utf8.ofString "report"
  | none => Utf8.ofString "report"

/-- The path of the report of an input, in the parent of the input. -/
def Path.beside (input : Path) (format : Format) : Path :=
  (input.parent?.getD ⟨[Path.dot]⟩).join
    ⟨input.reportStem ++ Utf8.ofString ("_processed." ++ format.ending)⟩

/-- What a file of a report holds. -/
def Report.content (report : Report) : Format → Except Error Content
  | .json => .ok (.ofString report.toJson)
  | .workbook => ((Workbook.ofTable report.table).mapError .workbook).map .workbook

/-- The disk with a report in a file. Nothing is written of a report that does not fit. -/
def Report.save (report : Report) (disk : Disk) (format : Format) (p : Path) :
    Except Error Disk := do
  let content ← report.content format
  (disk.write p content).mapError .io

end Screening
