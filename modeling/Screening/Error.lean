/-
What can go wrong in a run.

Each error has a message. Where it comes from a fault of a file or of a JSON text, that fault is its
cause, which is told apart from the message.

* `Error.message`, `Error.cause?`: the texts of an error.
-/
import Screening.Files.Disk
import Screening.Json.Fault
import Screening.Report
import Screening.Sheet.Written

namespace Screening

/-- What can go wrong in a run. -/
inductive Error where
  /-- A workbook without anything to report. -/
  | input (e : InputError)
  /-- Criteria that are not what their JSON text should be. -/
  | criteria (e : Json.Error)
  /-- Settings that are not what their JSON text should be. -/
  | settings (e : Json.Error)
  /-- No file to read at a path. -/
  | fileNotFound (p : Path)
  /-- A file that is no workbook. -/
  | notWorkbook
  /-- A report that does not fit into a workbook. -/
  | workbook (e : WriteError)
  | io (e : IoError)
  /-- A serial number out of range. -/
  | serial (e : Serial.Overflow)
  deriving DecidableEq

namespace Error

/-- The message of an error. -/
def message : Error → String
  | input e => "Input error: " ++ e.reason
  | criteria e => "JSON error: " ++ e.message
  | settings e => "JSON解析エラー: " ++ e.message
  | fileNotFound p => "ファイルが見つかりません: " ++ p.text
  | notWorkbook => "スプレッドシート読み込みエラー"
  | workbook e => "Excel生成エラー: " ++ e.message
  | io e => "IOエラー: " ++ e.message
  | serial e => e.message

/-- The message of the fault that an error comes from. -/
def cause? : Error → Option String
  | criteria e | settings e => some e.message
  | io e => some e.message
  | _ => none

end Error

end Screening
