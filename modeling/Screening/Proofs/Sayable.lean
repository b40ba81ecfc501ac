/-
What a line of texts can ask for.

Arguments are texts here, and an empty one is no path. So of the commands a line of text arguments can
ask only for those whose paths are texts and not empty, whatever else they hold. That no path that was
read is empty is an invariant: taking an option keeps it, and so does taking the input, and reading
does nothing else.

* `Path.IsSayable`, `Command.IsSayable`: the commands that text arguments can ask for.
* `Progress.Kept`: properties that every step of reading keeps; `Kept.readScope`: all steps keep them.
* `kept_hasPaths`: no path that was read is empty.
* `readCommand_cases`, `readLine_cases`: what a line that is read is made of.
* `Command.isSayable_of_ofArguments`: a command that is read is one of those.
-/
import Screening.Proofs.Encoding
import Screening.Proofs.Results
import Screening.Command.Arguments

namespace Screening

/-! ### Paths in arguments -/

namespace Path

/-- A path that a text argument can hold: that of a text which is not empty. -/
def IsSayable (p : Path) : Prop :=
  ∃ text, text ≠ "" ∧ ofString text = p

variable {p : Path}

lemma text_ofString (s : String) : (ofString s).text = s := by
  have hdecode (cs : List Char) : Utf8.decodeLossy (Utf8.encode cs) = cs := by
    rw [Utf8.decodeLossy, Utf8.pieces_encode, List.map_map]
    exact List.map_id cs
  rw [text, ofString, Utf8.ofString, hdecode, String.ofList_toList]

lemma IsSayable.ofString_text (h : p.IsSayable) : ofString p.text = p := by
  obtain ⟨text, -, rfl⟩ := h
  rw [text_ofString]

lemma IsSayable.text_ne (h : p.IsSayable) : p.text ≠ "" := by
  obtain ⟨text, hne, rfl⟩ := h
  rwa [text_ofString]

end Path

/-- The paths of a command are ones that text arguments can hold. -/
def Command.IsSayable : Command → Prop
  | process request =>
    request.input.IsSayable ∧ ∀ p, request.output = some p ∨ request.config = some p → p.IsSayable
  | config _ => True

namespace Arguments

/-! ### Steps of reading -/

namespace Progress

/-- A property of what was read that every step of reading keeps. -/
structure Kept (P : Progress → Prop) : Prop where
  /-- Something waits. -/
  pending : ∀ {p pending}, P p → P { p with pending := pending }
  /-- An option is taken. -/
  take : ∀ {p q switch value}, P p → p.take switch value = .ok q → P q
  /-- The input is taken. -/
  input : ∀ {p input}, P p → input ≠ "" → P { p with pending := none, input := some input }

variable {P : Progress → Prop} {p q : Progress} {switch : Switch} {value : String}

lemma Kept.settle (hP : Kept P) (hp : P p) (h : p.settle = .ok q) : P q := by
  unfold Progress.settle at h
  split at h
  case h_1 =>
    cases h
    exact hp
  case h_2 => cases h
  case h_3 => exact hP.take (hP.pending hp) h
  case h_4 =>
    split at h
    case isTrue => cases h
    case isFalse hne =>
      cases h
      exact hP.input hp hne

lemma Kept.takeNext (hP : Kept P) (hp : P p) (h : p.takeNext switch value = .ok q) : P q := by
  obtain ⟨r, hsettle, htake⟩ := exists_of_bind_eq_ok h
  exact hP.take (hP.settle hp hsettle) htake

lemma Kept.await {slot : Slot} {value : Option String} (hP : Kept P) (hp : P p)
    (h : p.await slot value = .ok q) : P q := by
  obtain ⟨r, hsettle, hawait⟩ := exists_of_bind_eq_ok h
  cases hawait
  exact hP.pending (hP.settle hp hsettle)

end Progress

open Progress

variable {P : Progress → Prop} {scope : Scope} {p q : Progress}

/-! ### All of a part of a line -/

lemma Progress.Kept.readLong {name : List Char} {value : Option String} (hP : Kept P) (hp : P p)
    (h : readLong scope p name value = .ok q) : P q := by
  unfold Arguments.readLong at h
  split at h
  case h_1 => cases h
  case h_2 =>
    split at h
    case h_1 => exact hP.takeNext hp h
    case h_2 => exact hP.await hp h
    case h_3 => cases h
    case h_4 => exact hP.takeNext hp h

lemma Progress.Kept.readLetters {letters : List Char} (hP : Kept P) (hp : P p)
    (h : readLetters scope p letters = .ok q) : P q := by
  induction letters generalizing p with
  | nil =>
    cases h
    exact hp
  | cons letter rest ih =>
    unfold Arguments.readLetters at h
    split at h
    case h_1 => cases h
    case h_2 =>
      split at h
      case isTrue =>
        split at h
        case h_1 => exact hP.await hp h
        case h_2 => exact hP.takeNext hp h
        case h_3 => exact hP.takeNext hp h
      case isFalse =>
        split at h
        case h_1 => cases h
        case h_2 hnext => exact ih (hP.takeNext hp hnext) h

lemma Progress.Kept.readPlain {argument : String} (hP : Kept P) (hp : P p)
    (h : readPlain scope p argument = .ok q) : P q := by
  unfold Arguments.readPlain at h
  split at h
  case isTrue => exact hP.await hp h
  case isFalse => cases h

lemma Progress.Kept.readArgument {argument : String} (hP : Kept P) (hp : P p)
    (h : readArgument scope p argument = .ok q) : P q := by
  unfold Arguments.readArgument at h
  split at h
  case h_1 =>
    cases h
    exact hp
  case h_2 => exact hP.readLong hp h
  case h_3 => exact hP.readLetters hp h
  case h_4 =>
    unfold readValue at h
    split at h
    case h_1 =>
      cases h
      exact hP.pending hp
    case h_2 => exact hP.readPlain hp h

lemma Progress.Kept.readPlains {arguments : List String} (hP : Kept P) (hp : P p)
    (h : readPlains scope p arguments = .ok q) : P q := by
  induction arguments generalizing p with
  | nil => exact hP.settle hp h
  | cons argument arguments ih =>
    unfold Arguments.readPlains at h
    split at h
    case h_1 => cases h
    case h_2 hread => exact ih (hP.readPlain hp hread) h

/-- **What every step keeps, reading the arguments after a command keeps.** -/
lemma Progress.Kept.readScope {arguments : List String} (hP : Kept P) (hp : P p)
    (h : readScope scope p arguments = .ok q) : P q := by
  induction arguments generalizing p with
  | nil => exact hP.settle hp h
  | cons argument arguments ih =>
    unfold Arguments.readScope at h
    split at h
    case isTrue => exact hP.readPlains hp h
    case isFalse =>
      split at h
      case h_1 => cases h
      case h_2 hread => exact ih (hP.readArgument hp hread) h

/-! ### Paths that were read -/

namespace Progress

/-- No path that was read is empty. -/
structure HasPaths (p : Progress) : Prop where
  ne_of_mem : ∀ {switch value}, (switch, value) ∈ p.given → switch.use = .path → value ≠ ""
  ne_of_input : ∀ {input}, p.input = some input → input ≠ ""

lemma hasPaths_start : start.HasPaths where
  ne_of_mem hmem := by cases hmem
  ne_of_input h := by cases h

/-- Reading takes no empty path. -/
lemma kept_hasPaths : Kept HasPaths where
  pending hp := ⟨hp.ne_of_mem, hp.ne_of_input⟩
  take {p q switch value} hp h := by
    unfold take at h
    split at h
    case isTrue => cases h
    split at h
    case isTrue => cases h
    split at h
    case isTrue => cases h
    case isFalse hempty =>
      cases h
      refine ⟨fun hmem huse => ?_, hp.ne_of_input⟩
      rcases List.mem_append.1 hmem with hmem | hmem
      · exact hp.ne_of_mem hmem huse
      · cases List.mem_singleton.1 hmem
        exact fun hvalue => hempty ⟨huse, hvalue⟩
  input hp hne := by
    refine ⟨hp.ne_of_mem, fun h => ?_⟩
    cases h
    exact hne

variable {p : Progress}

/-- The path of an option is one that an argument can hold. -/
lemma HasPaths.isSayable_of_path? {switch : Switch} {path : Path} (hp : p.HasPaths)
    (huse : switch.use = .path) (h : p.path? switch = some path) : path.IsSayable := by
  obtain ⟨value, hvalue, rfl⟩ := Option.map_eq_some_iff.1 h
  obtain ⟨⟨s, v⟩, hmem, hs⟩ := List.mem_filterMap.1 (List.mem_of_head? hvalue)
  dsimp only at hs
  split at hs
  case isTrue heq =>
    cases hs
    subst heq
    exact ⟨value, hp.ne_of_mem hmem huse, rfl⟩
  case isFalse => cases hs

/-- A request for a report that was read has paths that arguments can hold. -/
lemma HasPaths.isSayable_of_reportRequest {command : Command} (hp : p.HasPaths)
    (h : p.reportRequest = .ok command) : command.IsSayable := by
  unfold reportRequest at h
  split at h
  case h_1 => cases h
  case h_2 input hinput =>
    cases h
    refine ⟨⟨input, hp.ne_of_input hinput, rfl⟩, ?_⟩
    rintro path (houtput | hconfig)
    · exact hp.isSayable_of_path? rfl houtput
    · exact hp.isSayable_of_path? rfl hconfig

end Progress

/-! ### The line -/

variable {arguments : List String} {invocation : Invocation}

/-- What is read of a command and the arguments after it. -/
lemma readCommand_cases {name : String} (h : readCommand p name arguments = .ok invocation) :
    (name = "process" ∧ ∃ after command, readScope .process .start arguments = .ok after ∧
      after.reportRequest = .ok command ∧ invocation = p.invocation after command) ∨
    (name = "config" ∧ ∃ after, readScope .config .start arguments = .ok after ∧
      invocation = p.invocation after after.settingsRequest) := by
  unfold readCommand at h
  split at h
  case isTrue hname =>
    obtain ⟨after, hread, h⟩ := exists_of_bind_eq_ok h
    obtain ⟨command, hcommand, h⟩ := exists_of_bind_eq_ok h
    cases h
    exact .inl ⟨hname, after, command, hread, hcommand, rfl⟩
  case isFalse =>
    split at h
    case isTrue hname =>
      obtain ⟨after, hread, h⟩ := exists_of_bind_eq_ok h
      cases h
      exact .inr ⟨hname, after, hread, rfl⟩
    case isFalse => cases h

/-- A line that is read begins with the name of a command, or with options. -/
lemma readLine_cases {argument : String}
    (h : readLine p (argument :: arguments) = .ok invocation) :
    readCommand p argument arguments = .ok invocation ∨
      argument ∉ commandNames ∧ ∃ q, readArgument .beforeCommand p argument = .ok q ∧
        readLine q arguments = .ok invocation := by
  unfold readLine at h
  split at h
  case isTrue => exact .inl h
  case isFalse hname =>
    split at h
    case isTrue => split at h <;> cases h
    split at h
    case isTrue => cases h
    split at h
    case h_1 => cases h
    case h_2 q hread => exact .inr ⟨hname, q, hread, h⟩

lemma isSayable_of_readCommand {name : String}
    (h : readCommand p name arguments = .ok invocation) : invocation.command.IsSayable := by
  rcases readCommand_cases h with ⟨-, after, command, hread, hrequest, rfl⟩ | ⟨-, after, -, rfl⟩
  · exact (kept_hasPaths.readScope hasPaths_start hread).isSayable_of_reportRequest hrequest
  · trivial

lemma isSayable_of_readLine (h : readLine p arguments = .ok invocation) :
    invocation.command.IsSayable := by
  induction arguments generalizing p with
  | nil => cases h
  | cons argument arguments ih =>
    rcases readLine_cases h with hcommand | ⟨-, q, -, hline⟩
    · exact isSayable_of_readCommand hcommand
    · exact ih hline

end Arguments

/-- **A command that a line of texts asks for has paths that are texts and not empty.** -/
theorem Invocation.isSayable_of_ofArguments {arguments : List String} {invocation : Invocation}
    (h : ofArguments arguments = .ok invocation) : invocation.command.IsSayable :=
  Arguments.isSayable_of_readLine h

end Screening
