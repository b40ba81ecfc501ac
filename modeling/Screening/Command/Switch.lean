/-
The options of the command line.

An option is either a flag or takes a value; some options may be given once only, and some values
are paths, which are not empty. Which options there are depends on the command that they follow.

* `Switch`, `Switch.use`: the options, and what is done with each.
* `Scope`: the places of a line where options stand.
-/

namespace Screening

/-- An option of the command line. -/
inductive Switch where
  | verbose
  | help
  | output
  | config
  | keyword
  | code
  | json
  | addKeyword
  | removeKeyword
  | addCode
  | removeCode
  | reset
  | display
  deriving DecidableEq

namespace Switch

/-- What is done with an option. -/
inductive Use where
  /-- It may be repeated, and its repeats are counted. -/
  | count
  /-- It ends the reading of the line. -/
  | help
  /-- It is given or not. -/
  | flag
  /-- It has one path. -/
  | path
  /-- Each repeat adds a text. -/
  | texts
  deriving DecidableEq

/-- What is done with each option. -/
def use : Switch → Use
  | verbose => .count
  | help => .help
  | output | config => .path
  | keyword | code | addKeyword | removeKeyword | addCode | removeCode => .texts
  | json | reset | display => .flag

/-- The name after two dashes. -/
def long : Switch → String
  | verbose => "verbose"
  | help => "help"
  | output => "output"
  | config => "config"
  | keyword => "keyword"
  | code => "code"
  | json => "json"
  | addKeyword => "add-keyword"
  | removeKeyword => "remove-keyword"
  | addCode => "add-code"
  | removeCode => "remove-code"
  | reset => "reset"
  | display => "show"

/-- The letter after one dash. -/
def short? : Switch → Option Char
  | verbose => some 'v'
  | help => some 'h'
  | output => some 'o'
  | config => some 'c'
  | keyword => some 'k'
  | _ => none

end Switch

/-- Whether an option takes a value. -/
def Switch.Use.takesValue : Switch.Use → Bool
  | path | texts => true
  | _ => false

/-- Whether an option may be given only once. -/
def Switch.Use.isSingle : Switch.Use → Bool
  | path | flag => true
  | _ => false

/-! ### Where options stand -/

/-- The part of a line before a command, or after one. -/
inductive Scope where
  | beforeCommand
  | process
  | config
  deriving DecidableEq

namespace Scope

/-- The options of a part of a line. -/
def switches : Scope → List Switch
  | beforeCommand => [.verbose, .help]
  | process => [.verbose, .help, .output, .config, .keyword, .code, .json]
  | config =>
    [.verbose, .help, .addKeyword, .removeKeyword, .addCode, .removeCode, .reset, .display]

/-- Whether a part of a line holds the path of an input. -/
def takesInput : Scope → Bool
  | process => true
  | _ => false

/-- The option of a name. -/
def findLong (scope : Scope) (name : List Char) : Option Switch :=
  scope.switches.find? fun switch => switch.long.toList == name

/-- The option of a letter. -/
def findShort (scope : Scope) (letter : Char) : Option Switch :=
  scope.switches.find? fun switch => switch.short? == some letter

end Scope

end Screening
