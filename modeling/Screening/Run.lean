/-
Runs of the program.

A run takes the arguments, the files and the home directory, and gives the exit code, what is
printed and the files after it. Progress goes to the standard error, so that the standard output
holds nothing but a report or the settings. A run that fails says why: the error, what it was met
in, and what it comes from.

* `run`: a run of the program.
* `failureText`: how an error is told.
-/
import Screening.Command.Arguments
import Screening.Report.Input
import Screening.Report.Output
import Screening.Settings.Stored

namespace Screening

/-! ### Outcomes -/

/-- What a run leaves behind. -/
structure Outcome where
  code : Nat
  stdout : String
  stderr : String
  disk : Disk
  deriving DecidableEq

/-- A line of text with its end. -/
def textLine (parts : List String) : String :=
  String.join parts ++ "\n"

/-- A cause of an error below it, numbered if there are several; further lines of it are indented
as the first. -/
def causeText (number : Option Nat) (cause : String) : String :=
  let (mark, indent) :=
    match number with
    | none => ("    ", "    ")
    | some n => (String.ofList ((toString n).toList.leftpad 5 ' ') ++ ": ", "       ")
  let indented := cause.toList.flatMap fun c => if c = '\n' then '\n' :: indent.toList else [c]
  textLine [mark, String.ofList indented]

/-- The causes of an error. -/
def causesText : List String → String
  | [] => ""
  | [cause] => "\nCaused by:\n" ++ causeText none cause
  | causes => "\nCaused by:\n" ++ String.join (causes.mapIdx fun i cause => causeText (some i) cause)

/-- An error, told with what it was met in and with its cause. -/
def failureText (context : Option String) (e : Error) : String :=
  match context with
  | none => textLine ["Error: ", e.message] ++ causesText e.cause?.toList
  | some context => textLine ["Error: ", context] ++ causesText (e.message :: e.cause?.toList)

/-- A run that failed after some progress. A serial number out of range breaks the run off. -/
def Outcome.failed (disk : Disk) (progress : String) (context : Option String) (e : Error) :
    Outcome :=
  match e with
  | .serial overflow => ⟨101, "", progress ++ textLine [overflow.message], disk⟩
  | e => ⟨1, "", progress ++ failureText context e, disk⟩

/-! ### Making a report -/

/-- The line of a summary for a status; none for a status without lines. -/
def countText (status : Status) (n : Nat) : String :=
  if n = 0 then ""
  else textLine ["  ", String.ofList (status.label.toList.rightpad 12 ' '), " ", toString n]

/-- A summary as it is printed. -/
def Report.Summary.text (summary : Report.Summary) : String :=
  textLine ["\n集計:"] ++ String.join (summary.counts.map fun (status, n) => countText status n) ++
    if summary.skipped = 0 then "" else textLine ["  (空行 ", toString summary.skipped, "行をスキップ)"]

/-- What is printed before a report is made. -/
def banner : String :=
  textLine ["📋 compliance-report - レポート生成\n"]

/-- What is printed before the rows of an input are read. -/
def readingText (input : Path) : String :=
  textLine ["[1/2] ", input.text, " を処理中..."]

/-- What is printed once a report is made. -/
def madeText (report : Report) : String :=
  textLine ["✔ ", toString report.lines.length, "行を判定\n"] ++ textLine ["[2/2] 結果を保存中..."]

/-- What is printed once a report is written: where it is, and its summary. -/
def writtenText (report : Report) (output : Option Path) : String :=
  output.elim "" (fun p => textLine ["✔ 出力: ", p.text]) ++ report.summary.text ++ textLine ["\n✅ 完了"]

/-- The form in which a report is asked for. -/
def ReportRequest.format (request : ReportRequest) : Format :=
  if request.json then .json else .workbook

/-- Where a report goes: JSON without a path goes to the standard output. -/
def ReportRequest.destination? (request : ReportRequest) : Option Path :=
  match request.output, request.format with
  | some p, _ => some p
  | none, .json => none
  | none, .workbook => some (request.input.beside .workbook)

/-- Makes a report under some criteria. -/
def ReportRequest.runUnder (request : ReportRequest) (criteria : Criteria) (disk : Disk) :
    Outcome :=
  let progress := banner ++ readingText request.input
  match disk.report request.input criteria with
  | .error e => .failed disk progress (some (request.input.text ++ " の処理に失敗しました")) e
  | .ok report =>
    let progress := progress ++ madeText report
    match request.destination? with
    | none => ⟨0, textLine [report.toJson], progress ++ writtenText report none, disk⟩
    | some p =>
      match report.save disk request.format p with
      | .error e => .failed disk progress none e
      | .ok disk => ⟨0, "", progress ++ writtenText report (some p), disk⟩

/-- Makes a report under the criteria of the run. -/
def ReportRequest.run (request : ReportRequest) (settings : Settings) (disk : Disk) : Outcome :=
  match settings.resolve disk request.config request.keywords request.codes with
  | .error e => .failed disk banner none e
  | .ok criteria => request.runUnder criteria disk

/-! ### Changing the settings -/

/-- Whether a request changes anything. -/
def SettingsRequest.changes (request : SettingsRequest) : Bool :=
  request.reset || !(request.addKeyword.isEmpty && request.removeKeyword.isEmpty &&
    request.addCode.isEmpty && request.removeCode.isEmpty)

/-- The settings after a request: reset first, and of each kind of entry all are added before any
is removed. -/
def SettingsRequest.apply (request : SettingsRequest) (settings : Settings) : Settings :=
  let settings := if request.reset then .initial else settings
  let settings := request.addKeyword.foldl (fun s entry => (s.addKeyword entry).1) settings
  let settings := request.removeKeyword.foldl (fun s entry => (s.removeKeyword entry).1) settings
  let settings := request.addCode.foldl (fun s entry => (s.addCode entry).1) settings
  request.removeCode.foldl (fun s entry => (s.removeCode entry).1) settings

/-- The entries of a set on one line. -/
def EntrySet.text (set : EntrySet) : String :=
  if set.isEmpty then "(なし)" else ", ".intercalate set.toList

/-- Settings as they are printed. -/
def Settings.text (settings : Settings) : String :=
  textLine ["設定:"] ++ textLine ["  高リスクキーワード: ", settings.criteria.keywords.text] ++
    textLine ["  承認済みコード: ", settings.criteria.codes.text]

/-- Changes the settings in a file, and shows them if asked to or if there is nothing to change. -/
def SettingsRequest.run (request : SettingsRequest) (settings : Settings) (disk : Disk)
    (file : Path) : Outcome :=
  let changed := request.apply settings
  let shown := if request.display || !request.changes then changed.text else ""
  if request.changes then
    match changed.save disk file with
    | .error e => .failed disk "" none e
    | .ok disk => ⟨0, textLine ["✔ 設定を保存しました: ", file.text] ++ shown, "", disk⟩
  else ⟨0, shown, "", disk⟩

/-! ### The whole program -/

/-- The file of the settings, below the home directory. -/
def settingsFile (home : Path) : Path :=
  [".config", "compliance-report", "config.json"].foldl (fun p name => p.join (.ofString name)) home

/-- A run with a line that cannot be followed. A request for help is no failure. -/
def Outcome.refused (disk : Disk) (e : UsageError) : Outcome :=
  if e = .helpRequested then ⟨0, usage, "", disk⟩
  else ⟨2, "", textLine ["error: ", e.message] ++ usage, disk⟩

/-- Follows a command with the settings of a file. -/
def Command.run (command : Command) (disk : Disk) (file : Path) : Outcome :=
  match Settings.load disk file with
  | .error e => .failed disk "" (some "設定の読み込みに失敗しました") e
  | .ok settings =>
    match command with
    | .process request => request.run settings disk
    | .config request => request.run settings disk file

/-- A run of the program. -/
def run (arguments : List String) (disk : Disk) (home : Path) : Outcome :=
  match Invocation.ofArguments arguments with
  | .error e => .refused disk e
  | .ok invocation => invocation.command.run disk (settingsFile home)

end Screening
