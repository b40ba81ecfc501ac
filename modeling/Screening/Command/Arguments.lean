/-
Reading the command line.

The arguments, all of them texts, are read from the left. What starts with a dash is an option, up to
an argument of two dashes; a single dash is none. An option that takes a value has it after an equals
sign or in the next argument, and letters may be joined, the rest of the argument being the value of
the first that takes one. A value that stands in an argument of its own is looked at only when the
next option or the end of the line is reached, so an unknown option is reported before a bad value in
front of it.

* `Invocation.ofArguments`: what a line asks for.
-/
import Screening.Command
import Screening.Command.Switch

namespace Screening

/-- What can be wrong with a command line. A request for help ends its reading as well. -/
inductive UsageError where
  | helpRequested
  | noArguments
  | missingCommand
  | unknownCommand
  | unknownArgument
  | missingInput
  /-- An option without its value, or with an empty path. -/
  | invalidValue
  /-- A flag with a value. -/
  | unexpectedValue
  | repeatedOption
  deriving DecidableEq

/-- The wording of what is wrong with a line. -/
def UsageError.message : UsageError → String
  | helpRequested => "help"
  | noArguments | missingCommand => "a command is missing"
  | unknownCommand => "no such command"
  | unknownArgument => "no such option, or one argument too many"
  | missingInput => "the input is missing"
  | invalidValue => "the value of an option is missing or empty"
  | unexpectedValue => "a flag has a value"
  | repeatedOption => "an option is given twice"

/-- How the program is called. -/
def usage : String :=
  "Usage: compliance-report [-v]... process [OPTIONS] INPUT\n" ++
    "       compliance-report [-v]... config [OPTIONS]\n"

namespace Arguments

/-! ### One argument -/

/-- How an argument reads. -/
inductive Argument where
  | separator
  | long (name : List Char) (value : Option String)
  | letters (letters : List Char)
  | plain
  deriving DecidableEq

/-- How an argument reads where options may stand. -/
def Argument.ofChars : List Char → Argument
  | ['-', '-'] => .separator
  | '-' :: '-' :: r =>
    match r.dropWhile (· ≠ '=') with
    | _ :: value => .long (r.takeWhile (· ≠ '=')) (some (String.ofList value))
    | [] => .long r none
  | '-' :: c :: r => .letters (c :: r)
  | _ => .plain

/-! ### What was read so far -/

/-- What a value is for: an option, or the path of the input. -/
inductive Slot where
  | switch (switch : Switch)
  | input
  deriving DecidableEq

/-- What was read of a part of a line: the options with their values in order, the path of the
input, and what still waits for its value or for a look at it. -/
structure Progress where
  given : List (Switch × String)
  input : Option String
  pending : Option (Slot × Option String)
  deriving DecidableEq

namespace Progress

/-- Nothing was read yet. -/
def start : Progress := ⟨[], none, none⟩

/-- The values of an option in order. -/
def values (p : Progress) (switch : Switch) : List String :=
  p.given.filterMap fun (s, value) => if s = switch then some value else none

/-- Whether an option was given. -/
def has (p : Progress) (switch : Switch) : Bool :=
  p.given.any fun (s, _) => s = switch

/-- Takes an option with its value; a flag has the empty one. -/
def take (p : Progress) (switch : Switch) (value : String) : Except UsageError Progress :=
  if switch.use = .help then .error .helpRequested
  else if switch.use.isSingle ∧ p.has switch then .error .repeatedOption
  else if switch.use = .path ∧ value = "" then .error .invalidValue
  else .ok { p with given := p.given ++ [(switch, value)] }

/-- Takes what is pending. -/
def settle (p : Progress) : Except UsageError Progress :=
  match p.pending with
  | none => .ok p
  | some (_, none) => .error .invalidValue
  | some (.switch switch, some value) => take { p with pending := none } switch value
  | some (.input, some value) =>
    if value = "" then .error .invalidValue
    else .ok { p with pending := none, input := some value }

/-- Takes what is pending, and then an option with its value. -/
def takeNext (p : Progress) (switch : Switch) (value : String) : Except UsageError Progress := do
  let p ← p.settle
  p.take switch value

/-- Takes what is pending, and then lets something wait. -/
def await (p : Progress) (slot : Slot) (value : Option String) : Except UsageError Progress := do
  let p ← p.settle
  pure { p with pending := some (slot, value) }

/-- Whether the path of the input has been read. -/
def hasInput (p : Progress) : Bool :=
  match p.pending with
  | some (.input, _) => true
  | _ => p.input.isSome

/-- How often more logging was asked for; the count stays at 255. -/
def verbosity (p : Progress) : Nat :=
  min 255 (p.values .verbose).length

end Progress

/-! ### Reading options -/

/-- Reads an option by its name. -/
def readLong (scope : Scope) (p : Progress) (name : List Char) (value : Option String) :
    Except UsageError Progress :=
  match scope.findLong name with
  | none => .error .unknownArgument
  | some switch =>
    match switch.use.takesValue, value with
    | true, some value => p.takeNext switch value
    | true, none => p.await (.switch switch) none
    | false, some _ => .error .unexpectedValue
    | false, none => p.takeNext switch ""

/-- Reads joined letters. An equals sign between a letter and its value is not part of the value. -/
def readLetters (scope : Scope) (p : Progress) : List Char → Except UsageError Progress
  | [] => .ok p
  | letter :: rest =>
    match scope.findShort letter with
    | none => .error .unknownArgument
    | some switch =>
      if switch.use.takesValue then
        match rest with
        | [] => p.await (.switch switch) none
        | '=' :: value => p.takeNext switch (String.ofList value)
        | value => p.takeNext switch (String.ofList value)
      else
        match p.takeNext switch "" with
        | .error e => .error e
        | .ok p => readLetters scope p rest

/-- Reads an argument that is no option. -/
def readPlain (scope : Scope) (p : Progress) (argument : String) : Except UsageError Progress :=
  if scope.takesInput && !p.hasInput then p.await .input (some argument)
  else .error .unknownArgument

/-- Reads an argument that is no option where the one before may want it. -/
def readValue (scope : Scope) (p : Progress) (argument : String) : Except UsageError Progress :=
  match p.pending with
  | some (slot, none) => .ok { p with pending := some (slot, some argument) }
  | _ => readPlain scope p argument

/-! ### Reading a part of a line -/

/-- Reads the arguments after the separator, none of which is an option. -/
def readPlains (scope : Scope) (p : Progress) : List String → Except UsageError Progress
  | [] => p.settle
  | argument :: arguments =>
    match readPlain scope p argument with
    | .error e => .error e
    | .ok p => readPlains scope p arguments

/-- Reads an argument where options may stand. -/
def readArgument (scope : Scope) (p : Progress) (argument : String) :
    Except UsageError Progress :=
  match Argument.ofChars argument.toList with
  | .separator => .ok p
  | .long name value => readLong scope p name value
  | .letters letters => readLetters scope p letters
  | .plain => readValue scope p argument

/-- Reads the arguments after a command. -/
def readScope (scope : Scope) (p : Progress) : List String → Except UsageError Progress
  | [] => p.settle
  | argument :: arguments =>
    if argument = "--" then readPlains scope p arguments
    else
      match readArgument scope p argument with
      | .error e => .error e
      | .ok p => readScope scope p arguments

/-- The path of an option. -/
def Progress.path? (p : Progress) (switch : Switch) : Option Path :=
  (p.values switch).head?.map Path.ofString

/-- The request for a report. -/
def Progress.reportRequest (p : Progress) : Except UsageError Command :=
  match p.input with
  | none => .error .missingInput
  | some input =>
    .ok
      (.process
        { input := Path.ofString input
          output := p.path? .output
          config := p.path? .config
          keywords := p.values .keyword
          codes := p.values .code
          json := p.has .json })

/-- The request for changes of the settings. -/
def Progress.settingsRequest (p : Progress) : Command :=
  .config
    { addKeyword := p.values .addKeyword
      removeKeyword := p.values .removeKeyword
      addCode := p.values .addCode
      removeCode := p.values .removeCode
      reset := p.has .reset
      display := p.has .display }

/-- The invocation of a command. Flags for logging after the command count in place of those
before it. -/
def Progress.invocation (before after : Progress) (command : Command) : Invocation where
  verbosity := if after.has .verbose then after.verbosity else before.verbosity
  command := command

/-! ### Reading a line -/

/-- The names of the commands, and the word that asks for help. -/
def commandNames : List String :=
  ["process", "config", "help"]

/-- What the word for help asks for: help on the program or on one command. -/
def readHelp : List String → UsageError
  | [] => .helpRequested
  | [name] => if name ∈ commandNames then .helpRequested else .unknownCommand
  | _ => .unknownCommand

/-- Reads a command and the arguments after it. -/
def readCommand (before : Progress) (name : String) (arguments : List String) :
    Except UsageError Invocation :=
  if name = "process" then do
    let after ← readScope .process .start arguments
    let command ← after.reportRequest
    pure (before.invocation after command)
  else if name = "config" then do
    let after ← readScope .config .start arguments
    pure (before.invocation after after.settingsRequest)
  else .error (readHelp arguments)

/-- A line that ends without a command. -/
def noCommand (p : Progress) : UsageError :=
  if p.given.isEmpty then .noArguments else .missingCommand

/-- Reads a line from before its command on. A separator has no command after it. -/
def readLine (p : Progress) : List String → Except UsageError Invocation
  | [] => .error (noCommand p)
  | argument :: arguments =>
    if argument ∈ commandNames then readCommand p argument arguments
    else if argument = "--" then
      match arguments with
      | [] => .error (noCommand p)
      | name :: _ => .error (if name ∈ commandNames then .unknownArgument else .unknownCommand)
    else if Argument.ofChars argument.toList = .plain then .error .unknownCommand
    else
      match readArgument .beforeCommand p argument with
      | .error e => .error e
      | .ok p => readLine p arguments

end Arguments

/-- What a command line asks for. -/
def Invocation.ofArguments (arguments : List String) : Except UsageError Invocation :=
  Arguments.readLine .start arguments

end Screening
