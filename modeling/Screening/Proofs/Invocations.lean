/-
Every command can be asked for.

A line that asks for a command has flags for logging, the name of the command, its options, each with
its value after an equals sign, and for a report the separator and the input. The options may stand in
any order that keeps the values of one option in order. Such a line is read as the command, whatever
the values look like: a value ends where its argument ends, and only the first equals sign divides it
from the name.

Arguments are texts here. No line of them asks for a path that is empty or no text, so the lines above
ask for everything that text arguments can; of arguments that are no text nothing is said.

* `Command.values`, `Command.HasOptions`: the values of each option, and the orders of the options.
* `Command.line`: the line that asks for a command.
* `readArgument_argument`: one option; `readScope_options`: all of them.
* `readLine_line`: the line from the name of the command on.
* `Invocation.ofArguments_line`: the line is read as the command.
-/
import Mathlib.Data.List.TakeWhile
import Screening.Proofs.Verbosity

namespace Screening

/-! ### The options of a command -/

/-- The values that a flag has: the empty one if it is set. -/
def flagValues (isSet : Bool) : List String :=
  if isSet then [""] else []

/-- The values that a report has for an option, in order. -/
def ReportRequest.values (request : ReportRequest) : Switch → List String
  | .output => request.output.toList.map Path.text
  | .config => request.config.toList.map Path.text
  | .keyword => request.keywords
  | .code => request.codes
  | .json => flagValues request.json
  | _ => []

/-- The values that a change of the settings has for an option, in order. -/
def SettingsRequest.values (request : SettingsRequest) : Switch → List String
  | .addKeyword => request.addKeyword
  | .removeKeyword => request.removeKeyword
  | .addCode => request.addCode
  | .removeCode => request.removeCode
  | .reset => flagValues request.reset
  | .display => flagValues request.display
  | _ => []

namespace Command

/-- The values that a command has for an option, in order. -/
def values : Command → Switch → List String
  | process request => request.values
  | config request => request.values

/-- Options with their values are those of a command, in an order that keeps the values of each option
in order. -/
def HasOptions (command : Command) (options : List (Switch × String)) : Prop :=
  ∀ switch, (options.filter (·.1 = switch)).map (·.2) = command.values switch

/-- The part of a line after the name of a command. -/
def scope : Command → Scope
  | process _ => .process
  | config _ => .config

end Command

/-- An option as one argument; the value of a flag is left out. -/
def Switch.argument (switch : Switch) (value : String) : String :=
  match switch with
  | verbose => "--verbose"
  | help => "--help"
  | output => "--output=" ++ value
  | config => "--config=" ++ value
  | keyword => "--keyword=" ++ value
  | code => "--code=" ++ value
  | json => "--json"
  | addKeyword => "--add-keyword=" ++ value
  | removeKeyword => "--remove-keyword=" ++ value
  | addCode => "--add-code=" ++ value
  | removeCode => "--remove-code=" ++ value
  | reset => "--reset"
  | display => "--show"

/-- The line that asks for a command, from its name on. -/
def Command.line (options : List (Switch × String)) : Command → List String
  | process request =>
    "process" :: options.map (fun o => o.1.argument o.2) ++ ["--", request.input.text]
  | config _ => "config" :: options.map fun o => o.1.argument o.2

/-! ### Values that options take -/

lemma eq_of_mem_flagValues {isSet : Bool} {value : String} (h : value ∈ flagValues isSet) :
    value = "" := by
  cases isSet with
  | false => cases h
  | true => exact List.mem_singleton.1 h

lemma length_flagValues_le (isSet : Bool) : (flagValues isSet).length ≤ 1 := by
  cases isSet <;> decide

namespace Switch

variable {switch : Switch} {value : String}

/-- A value that an option can have. -/
structure Takes (switch : Switch) (value : String) : Prop where
  ne_help : switch.use ≠ .help
  ne_of_path : switch.use = .path → value ≠ ""
  eq_of_flag : switch.use.takesValue = false → value = ""

lemma takes_texts (huse : switch.use = .texts) (value : String) : switch.Takes value where
  ne_help := by simp [huse]
  ne_of_path := by simp [huse]
  eq_of_flag := by simp [huse, Use.takesValue]

lemma takes_path (huse : switch.use = .path) (h : value ≠ "") : switch.Takes value where
  ne_help := by simp [huse]
  ne_of_path _ := h
  eq_of_flag := by simp [huse, Use.takesValue]

lemma takes_flag (huse : switch.use = .flag) (h : value = "") : switch.Takes value where
  ne_help := by simp [huse]
  ne_of_path := by simp [huse]
  eq_of_flag _ := h

end Switch

namespace Command

variable {command : Command} {switch : Switch} {value : String}

/-- An option that has values may stand behind the name of the command. -/
lemma mem_switches (h : value ∈ command.values switch) : switch ∈ command.scope.switches := by
  revert h
  cases command <;> cases switch <;>
    simp [values, ReportRequest.values, SettingsRequest.values, scope, Scope.switches]

/-- An option takes the values that a command has for it. -/
lemma takes (hcommand : command.IsSayable) (h : value ∈ command.values switch) :
    switch.Takes value := by
  cases command with
  | process request =>
    obtain ⟨-, hpaths⟩ := hcommand
    cases switch with
    | output =>
      obtain ⟨p, hp, rfl⟩ := List.mem_map.1 h
      exact Switch.takes_path rfl (hpaths p (.inl (Option.mem_toList.1 hp))).text_ne
    | config =>
      obtain ⟨p, hp, rfl⟩ := List.mem_map.1 h
      exact Switch.takes_path rfl (hpaths p (.inr (Option.mem_toList.1 hp))).text_ne
    | keyword | code => exact Switch.takes_texts rfl value
    | json => exact Switch.takes_flag rfl (eq_of_mem_flagValues h)
    | _ => cases h
  | config request =>
    cases switch with
    | addKeyword | removeKeyword | addCode | removeCode => exact Switch.takes_texts rfl value
    | reset | display => exact Switch.takes_flag rfl (eq_of_mem_flagValues h)
    | _ => cases h

/-- An option that may be given once has one value at most. -/
lemma length_values_le (command : Command) (h : switch.use.isSingle = true) :
    (command.values switch).length ≤ 1 := by
  have hpath (p : Option Path) : (p.toList.map Path.text).length ≤ 1 := by
    rw [List.length_map]
    exact Option.length_toList_le
  cases command with
  | process request =>
    cases switch with
    | output | config => exact hpath _
    | json => exact length_flagValues_le _
    | keyword | code => cases h
    | _ => exact Nat.zero_le 1
  | config request =>
    cases switch with
    | reset | display => exact length_flagValues_le _
    | addKeyword | removeKeyword | addCode | removeCode => cases h
    | _ => exact Nat.zero_le 1

/-- Of options listed by their names those of one name have its values. -/
lemma filter_flatMap_values {switches : List Switch} (h : switches.Nodup)
    (values : Switch → List String) (switch : Switch) :
    ((switches.flatMap fun s => (values s).map (s, ·)).filter (·.1 = switch)).map (·.2)
      = if switch ∈ switches then values switch else [] := by
  induction switches with
  | nil => rfl
  | cons s switches ih =>
    obtain ⟨hs, hnodup⟩ := List.nodup_cons.1 h
    rw [List.flatMap_cons, List.filter_append, List.map_append, ih hnodup]
    by_cases heq : s = switch
    · subst heq
      simp [List.filter_map, Function.comp_def, hs]
    · simp [List.filter_map, Function.comp_def, heq, Ne.symm heq]

/-- There is an order of the options of a command: one name after the other. -/
lemma exists_hasOptions (command : Command) : ∃ options, command.HasOptions options := by
  have hnodup (scope : Scope) : scope.switches.Nodup := by
    cases scope <;> decide
  refine ⟨command.scope.switches.flatMap fun s => (command.values s).map (s, ·), fun switch => ?_⟩
  rw [filter_flatMap_values (hnodup _)]
  split
  case isTrue => rfl
  case isFalse hmem =>
    exact (List.eq_nil_iff_forall_not_mem.2 fun value hvalue => hmem (mem_switches hvalue)).symm

end Command

namespace Arguments

open Progress

variable {scope : Scope} {p : Progress} {switch : Switch} {value : String}

/-! ### One option -/

/-- An argument of two dashes and a name. -/
lemma ofChars_name {name : List Char} (hne : name ≠ []) (heq : '=' ∉ name) :
    Argument.ofChars ('-' :: '-' :: name) = .long name none := by
  have hdrop : name.dropWhile (· ≠ '=') = [] :=
    List.dropWhile_eq_nil_iff.2 fun c hc => by simpa using ne_of_mem_of_not_mem hc heq
  cases name with
  | nil => exact absurd rfl hne
  | cons c name =>
    rw [Argument.ofChars]
    · rw [hdrop]
    · simp

/-- An argument of two dashes, a name and a value: the first equals sign divides them. -/
lemma ofChars_name_value {name : List Char} (heq : '=' ∉ name) (value : List Char) :
    Argument.ofChars ('-' :: '-' :: (name ++ '=' :: value)) =
      .long name (some (String.ofList value)) := by
  have hne : ∀ c ∈ name, (decide (c ≠ '=')) = true := fun c hc => by
    simpa using ne_of_mem_of_not_mem hc heq
  rw [Argument.ofChars]
  · rw [List.dropWhile_append_of_pos hne, List.takeWhile_append_of_pos hne,
      List.dropWhile_cons_of_neg (by simp), List.takeWhile_cons_of_neg (by simp)]
    simp
  · simp

lemma long_ne_nil (switch : Switch) : switch.long.toList ≠ [] := by
  cases switch <;> decide

/-- No name of an option has an equals sign. -/
lemma equals_notMem_long (switch : Switch) : '=' ∉ switch.long.toList := by
  cases switch <;> decide

/-- The argument of an option is its name behind two dashes, and an equals sign before a value. -/
lemma toList_argument (switch : Switch) (value : String) :
    (switch.argument value).toList = '-' :: '-' :: (switch.long.toList ++
      if switch.use.takesValue then '=' :: value.toList else []) := by
  cases switch with
  | verbose | help | json | reset | display =>
    rw [if_neg (by decide), List.append_nil]
    dsimp only [Switch.argument]
    decide
  | _ => exact String.toList_append

/-- How the argument of an option reads. -/
lemma ofChars_argument (switch : Switch) (value : String) :
    Argument.ofChars (switch.argument value).toList =
      .long switch.long.toList (if switch.use.takesValue then some value else none) := by
  rw [toList_argument]
  split
  · rw [ofChars_name_value (equals_notMem_long switch), String.ofList_toList]
  · rw [List.append_nil, ofChars_name (long_ne_nil switch) (equals_notMem_long switch)]

/-- An option is found by its name where it may stand. -/
lemma findLong_long (h : switch ∈ scope.switches) :
    scope.findLong switch.long.toList = some switch := by
  revert h
  cases scope <;> cases switch <;> decide

/-- With nothing pending an option is taken at once. -/
lemma takeNext_eq_take (hp : p.pending = none) (switch : Switch) (value : String) :
    p.takeNext switch value = p.take switch value := by
  have hsettle : p.settle = .ok p := by rw [settle, hp]
  rw [takeNext, hsettle]
  rfl

/-- The argument of an option is read as the option with its value. -/
lemma readArgument_argument (hp : p.pending = none) (hmem : switch ∈ scope.switches)
    (h : switch.Takes value) :
    readArgument scope p (switch.argument value) = p.take switch value := by
  rw [readArgument, ofChars_argument]
  dsimp only
  rw [readLong, findLong_long hmem]
  cases htakes : switch.use.takesValue with
  | true =>
    simp only [htakes, if_true]
    exact takeNext_eq_take hp switch value
  | false =>
    simp only [htakes, h.eq_of_flag htakes, Bool.false_eq_true, if_false]
    exact takeNext_eq_take hp switch ""

/-- An option with a value that it can have is taken, unless it may be given once and was given. -/
lemma take_eq_ok (h : switch.Takes value)
    (honce : switch.use.isSingle = true → p.has switch = false) :
    p.take switch value = .ok { p with given := p.given ++ [(switch, value)] } := by
  rw [take, if_neg h.ne_help, if_neg fun hagain => by simp [honce hagain.1] at hagain,
    if_neg fun hempty => h.ne_of_path hempty.1 hempty.2]

/-! ### All options -/

/-- No option that may be given once is given twice. -/
def GivenOnce (given : List (Switch × String)) : Prop :=
  ∀ switch : Switch, switch.use.isSingle = true → given.countP (·.1 = switch) ≤ 1

/-- An option was not given before if it is given once. -/
lemma GivenOnce.has_eq_false {given options : List (Switch × String)} {input : Option String}
    {pending : Option (Slot × Option String)}
    (h : GivenOnce (given ++ (switch, value) :: options)) (hsingle : switch.use.isSingle = true) :
    (Progress.mk given input pending).has switch = false := by
  have hcount := h switch hsingle
  rw [List.countP_append, List.countP_cons_of_pos (by simp)] at hcount
  rw [has, List.any_eq_false]
  intro o ho hsame
  have hpos : 0 < given.countP (·.1 = switch) := List.countP_pos_iff.2 ⟨o, ho, hsame⟩
  omega

/-- The options of a part of a line are taken one by one. -/
lemma readScope_options {given options : List (Switch × String)} {input : Option String}
    (htakes : ∀ o ∈ options, o.1 ∈ scope.switches ∧ o.1.Takes o.2)
    (honce : GivenOnce (given ++ options)) (rest : List String) :
    readScope scope ⟨given, input, none⟩ (options.map (fun o => o.1.argument o.2) ++ rest) =
      readScope scope ⟨given ++ options, input, none⟩ rest := by
  induction options generalizing given with
  | nil => rw [List.append_nil, List.map_nil, List.nil_append]
  | cons o options ih =>
    obtain ⟨switch, value⟩ := o
    obtain ⟨hmem, hvalue⟩ := htakes _ List.mem_cons_self
    have htake : readArgument scope ⟨given, input, none⟩ (switch.argument value)
        = .ok ⟨given ++ [(switch, value)], input, none⟩ :=
      (readArgument_argument rfl hmem hvalue).trans (take_eq_ok hvalue honce.has_eq_false)
    have hne : switch.argument value ≠ "--" := by
      intro hseparator
      have hread := ofChars_argument switch value
      rw [hseparator] at hread
      cases hread
    rw [List.map_cons, List.cons_append, readScope, if_neg hne, htake]
    dsimp only
    rw [ih (fun o ho => htakes o (List.mem_cons_of_mem _ ho)) (by simpa using honce),
      List.append_assoc, List.singleton_append]

/-! ### What the options say -/

/-- The values that were read of an option are those that stand with it. -/
lemma values_eq (given : List (Switch × String)) (input : Option String)
    (pending : Option (Slot × Option String)) (switch : Switch) :
    (Progress.mk given input pending).values switch
      = (given.filter (·.1 = switch)).map (·.2) := by
  rw [values]
  induction given with
  | nil => rfl
  | cons o given ih =>
    obtain ⟨s, value⟩ := o
    rw [List.filterMap_cons, List.filter_cons]
    by_cases h : s = switch <;> simp [h, ih]

/-- The flag that a request has is given. -/
lemma has_eq {isSet : Bool} (h : p.values switch = flagValues isSet) : p.has switch = isSet := by
  rw [Bool.eq_iff_iff, has_iff_values_ne, h]
  cases isSet <;> decide

/-- The path that a request has for an option is given. -/
lemma path?_eq {path : Option Path} (h : p.values switch = path.toList.map Path.text)
    (hpath : ∀ q, path = some q → q.IsSayable) : p.path? switch = path := by
  rw [path?, h]
  cases path with
  | none => rfl
  | some q => exact congrArg some (hpath q rfl).ofString_text

/-- The options and the input of a report are its request. -/
lemma reportRequest_eq {request : ReportRequest} (hcommand : (Command.process request).IsSayable)
    (hvalues : ∀ switch, p.values switch = request.values switch)
    (hinput : p.input = some request.input.text) :
    p.reportRequest = .ok (.process request) := by
  obtain ⟨hsayable, hpaths⟩ := hcommand
  rw [reportRequest, hinput]
  dsimp only
  rw [hsayable.ofString_text, path?_eq (hvalues .output) fun q h => hpaths q (.inl h),
    path?_eq (hvalues .config) fun q h => hpaths q (.inr h), hvalues .keyword, hvalues .code,
    has_eq (hvalues .json)]
  rfl

/-- The options of a change of the settings are its request. -/
lemma settingsRequest_eq {request : SettingsRequest}
    (hvalues : ∀ switch, p.values switch = request.values switch) :
    p.settingsRequest = .config request := by
  rw [settingsRequest, hvalues .addKeyword, hvalues .removeKeyword, hvalues .addCode,
    hvalues .removeCode, has_eq (hvalues .reset), has_eq (hvalues .display)]
  rfl

/-! ### The line -/

/-- Flags for logging in front of a command are taken one by one. -/
lemma readLine_flags (n : ℕ) (given : List (Switch × String)) (rest : List String) :
    readLine ⟨given, none, none⟩ (List.replicate n "-v" ++ rest) =
      readLine ⟨given ++ List.replicate n (.verbose, ""), none, none⟩ rest := by
  induction n generalizing given with
  | zero => rw [List.replicate_zero, List.replicate_zero, List.append_nil, List.nil_append]
  | succ n ih =>
    have hstep (arguments : List String) :
        readLine ⟨given, none, none⟩ ("-v" :: arguments) =
          readLine ⟨given ++ [(.verbose, "")], none, none⟩ arguments := rfl
    rw [List.replicate_succ, List.cons_append, hstep, ih, List.append_assoc,
      List.singleton_append, List.replicate_succ]

/-- Up to 255 flags for logging are counted. -/
lemma verbosity_flags {n : ℕ} (hn : n ≤ 255) :
    (Progress.mk (List.replicate n (.verbose, "")) none none).verbosity = n := by
  rw [verbosity, values_eq, List.filter_replicate_of_pos (by simp), List.map_replicate,
    List.length_replicate, Nat.min_eq_right hn]

/-- Behind the separator the input is taken as it stands. -/
lemma readScope_input {input : String} (h : input ≠ "") (given : List (Switch × String)) :
    readScope .process ⟨given, none, none⟩ ["--", input] = .ok ⟨given, some input, none⟩ := by
  have hsettle : readScope .process ⟨given, none, none⟩ ["--", input] =
      (Progress.mk given none (some (.input, some input))).settle := rfl
  rw [hsettle, settle]
  exact if_neg h

/-- Without a flag behind the command those in front of it count. -/
lemma invocation_eq {before after : Progress} (h : after.values .verbose = flagValues false)
    (command : Command) : before.invocation after command = ⟨before.verbosity, command⟩ := by
  rw [invocation, has_eq h]
  rfl

/-- A report is asked for by its options and its input. -/
lemma readCommand_process {arguments : List String} {after : Progress} {command : Command}
    (hread : readScope .process .start arguments = .ok after)
    (hrequest : after.reportRequest = .ok command) (before : Progress) :
    readCommand before "process" arguments = .ok (before.invocation after command) := by
  rw [readCommand, if_pos rfl, hread]
  show (after.reportRequest >>= fun command => pure (before.invocation after command)) = _
  rw [hrequest]
  rfl

/-- A change of the settings is asked for by its options. -/
lemma readCommand_config {arguments : List String} {after : Progress}
    (hread : readScope .config .start arguments = .ok after) (before : Progress) :
    readCommand before "config" arguments
      = .ok (before.invocation after after.settingsRequest) := by
  rw [readCommand, if_neg (by decide), if_pos rfl, hread]
  rfl

section Options

variable {command : Command} {options : List (Switch × String)}

/-- What was read of the options has the values of the command. -/
lemma values_of_hasOptions (h : command.HasOptions options) (input : Option String)
    (switch : Switch) : (Progress.mk options input none).values switch = command.values switch :=
  (values_eq options input none switch).trans (h switch)

/-- The options of a command stand where they may, with values that they take. -/
lemma takes_of_hasOptions (hcommand : command.IsSayable) (h : command.HasOptions options) :
    ∀ o ∈ options, o.1 ∈ command.scope.switches ∧ o.1.Takes o.2 := by
  intro o ho
  have hvalue : o.2 ∈ command.values o.1 := by
    rw [← h o.1]
    exact List.mem_map.2 ⟨o, List.mem_filter.2 ⟨ho, by simp⟩, rfl⟩
  exact ⟨Command.mem_switches hvalue, Command.takes hcommand hvalue⟩

/-- No option of a command that may be given once is given twice. -/
lemma givenOnce_of_hasOptions (h : command.HasOptions options) : GivenOnce options := by
  intro switch hsingle
  have hlength := command.length_values_le hsingle
  rwa [← h switch, List.length_map, ← List.countP_eq_length_filter] at hlength

/-- From the name of a command on, its line is read as the command. -/
lemma readLine_line (hcommand : command.IsSayable) (h : command.HasOptions options)
    (before : Progress) :
    readLine before (command.line options) = .ok ⟨before.verbosity, command⟩ := by
  have htakes := takes_of_hasOptions hcommand h
  have honce : GivenOnce ([] ++ options) := givenOnce_of_hasOptions h
  cases command with
  | process request =>
    have hread : readScope .process .start
        (options.map (fun o => o.1.argument o.2) ++ ["--", request.input.text])
          = .ok ⟨options, some request.input.text, none⟩ :=
      (readScope_options htakes honce _).trans (readScope_input hcommand.1.text_ne options)
    have hvalues := values_of_hasOptions h (some request.input.text)
    have hcommandRead := readCommand_process hread (reportRequest_eq hcommand hvalues rfl) before
    rwa [invocation_eq (hvalues .verbose)] at hcommandRead
  | config request =>
    have hread : readScope .config .start (options.map fun o => o.1.argument o.2)
        = .ok ⟨options, none, none⟩ := by
      rw [← List.append_nil (options.map _)]
      exact readScope_options htakes honce []
    have hvalues := values_of_hasOptions h none
    have hcommandRead := readCommand_config hread before
    rwa [settingsRequest_eq hvalues, invocation_eq (hvalues .verbose)] at hcommandRead

end Options

end Arguments

namespace Invocation

open Arguments

/-- **Every command can be asked for.** The options of a command have an order that keeps the values
of each option in order. Some line of text arguments asks for a command exactly if its paths are texts
and not empty; lines with other arguments are left out. Then in each such order the line with up to
255 flags for logging, the name of the command, its options with their values after equals signs, and
for a report the separator and the input, is read as the command with as many flags, whatever the
values look like. -/
theorem ofArguments_line (command : Command) :
    (∃ options, command.HasOptions options) ∧
      (command.IsSayable ↔ ∃ arguments n, ofArguments arguments = .ok ⟨n, command⟩) ∧
      ∀ options n, command.IsSayable → command.HasOptions options → n ≤ 255 →
        ofArguments (List.replicate n "-v" ++ command.line options) = .ok ⟨n, command⟩ := by
  have hline : ∀ options n, command.IsSayable → command.HasOptions options → n ≤ 255 →
      ofArguments (List.replicate n "-v" ++ command.line options) = .ok ⟨n, command⟩ := by
    intro options n hcommand h hn
    have hflags := readLine_flags n [] (command.line options)
    rw [List.nil_append, readLine_line hcommand h, verbosity_flags hn] at hflags
    exact hflags
  obtain ⟨options, h⟩ := command.exists_hasOptions
  refine ⟨⟨options, h⟩, ⟨fun hcommand => ?_, ?_⟩, hline⟩
  · exact ⟨_, 0, hline options 0 hcommand h (Nat.zero_le 255)⟩
  · rintro ⟨arguments, n, hread⟩
    exact isSayable_of_ofArguments hread

/-- A report whose texts look like options. -/
def confusing : ReportRequest where
  input := .ofString "--help"
  output := some (.ofString "--json")
  config := some (.ofString "=")
  keywords := ["-v", "a=b", "--"]
  codes := ["--keyword=x", "process"]
  json := true

/-- Its options with keywords and codes mixed. -/
def confusingOptions : List (Switch × String) :=
  [(.code, "--keyword=x"), (.keyword, "-v"), (.config, "="), (.keyword, "a=b"), (.json, ""),
    (.code, "process"), (.output, "--json"), (.keyword, "--")]

/-- A line whose values look like options is read as the report that it asks for. -/
theorem ofArguments_line_confusing :
    (Command.process confusing).IsSayable ∧ (Command.process confusing).HasOptions confusingOptions ∧
      ofArguments ["-v", "-v", "process", "--code=--keyword=x", "--keyword=-v", "--config==",
          "--keyword=a=b", "--json", "--code=process", "--output=--json", "--keyword=--", "--",
          "--help"]
        = .ok ⟨2, .process confusing⟩ := by
  have hsayable : (Command.process confusing).IsSayable := by
    refine ⟨⟨"--help", by decide, rfl⟩, ?_⟩
    rintro p (h | h)
    · cases h
      exact ⟨"--json", by decide, rfl⟩
    · cases h
      exact ⟨"=", by decide, rfl⟩
  have hoptions : (Command.process confusing).HasOptions confusingOptions := by
    intro switch
    cases switch with
    | output => exact congrArg ([·]) (Path.text_ofString "--json").symm
    | config => exact congrArg ([·]) (Path.text_ofString "=").symm
    | _ => rfl
  have hline := (ofArguments_line _).2.2 confusingOptions 2 hsayable hoptions (by decide)
  have hinput : confusing.input.text = "--help" := Path.text_ofString "--help"
  rw [Command.line, hinput] at hline
  exact ⟨hsayable, hoptions, hline⟩

end Invocation

end Screening
