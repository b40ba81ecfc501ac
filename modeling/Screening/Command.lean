/-
What the program can be told to do.

A command makes a report of a workbook, or changes and shows the settings. Beside the command a line
says how much of the run is logged.

* `Command`: the two commands.
* `LogLevel.ofVerbosity`: the level that a number of flags asks for.
-/
import Screening.Files.Path

namespace Screening

/-! ### Commands -/

/-- A report to be made. -/
structure ReportRequest where
  input : Path
  output : Option Path
  /-- A file of criteria in place of those of the settings. -/
  config : Option Path
  keywords : List String
  codes : List String
  json : Bool
  deriving DecidableEq

/-- Changes of the settings. -/
structure SettingsRequest where
  addKeyword : List String
  removeKeyword : List String
  addCode : List String
  removeCode : List String
  reset : Bool
  display : Bool
  deriving DecidableEq

/-- A command. -/
inductive Command where
  | process (request : ReportRequest)
  | config (request : SettingsRequest)
  deriving DecidableEq

/-- A command, and how often more logging was asked for. -/
structure Invocation where
  verbosity : Nat
  command : Command
  deriving DecidableEq

/-! ### Logging -/

/-- How much of a run is logged, the least first. -/
inductive LogLevel where
  | warn
  | info
  | debug
  | trace
  deriving DecidableEq

namespace LogLevel

/-- The level that a number of flags asks for. -/
def ofVerbosity : Nat → LogLevel
  | 0 => warn
  | 1 => info
  | 2 => debug
  | _ => trace

/-- The place of a level in the order. -/
def rank : LogLevel → Nat
  | warn => 0
  | info => 1
  | debug => 2
  | trace => 3

/-- The name of a level. -/
def name : LogLevel → String
  | warn => "WARN"
  | info => "INFO"
  | debug => "DEBUG"
  | trace => "TRACE"

end LogLevel

end Screening
