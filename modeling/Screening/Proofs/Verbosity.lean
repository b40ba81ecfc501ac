/-
How often a line asks for more logging.

A flag for more logging may stand before the command and after it. The flags can be counted on the
arguments as they are written, without reading the line: no value of an option and no input is taken
for one. What is read has as many flags on each side of the command. Those after the command count in
place of those before it, so that the verbosity is the number of all flags only if one side has none,
or the count is full.

* `flagsIn`, `flagsBefore`, `flagsAfter`: the flags of an argument, and on both sides of the command.
* `Progress.Adds`: reading goes on, and so many flags are added.
* `take_adds`, `settle_adds`, `await_adds`: one step; `readArgument_adds`: one argument.
* `readScope_adds`, `exists_of_readLine`: the arguments after the command, and the whole line.
* `Invocation.verbosity_ofArguments`: the verbosity of a line, and when a further flag lowers it.
-/
import Mathlib.Algebra.GroupWithZero.Nat
import Screening.Proofs.Sayable

namespace Screening

namespace Arguments

/-! ### Counting flags on a line -/

/-- Whether a letter takes the rest of its argument for its value. -/
def takesRest (letter : Char) : Bool :=
  letter ∈ ['o', 'c', 'k']

/-- The flags for more logging in one argument: the long form is one, and of joined letters there is
one for each `v` before a letter that takes the rest of the argument for its value. -/
def flagsIn (argument : String) : ℕ :=
  match argument.toList with
  | '-' :: '-' :: name => if name = "verbose".toList then 1 else 0
  | '-' :: letters => (letters.takeWhile fun c => !takesRest c).count 'v'
  | _ => 0

/-- The flags in some arguments. -/
def flags (arguments : List String) : ℕ :=
  (arguments.map flagsIn).sum

/-- Whether an argument is the name of a command. -/
def isCommand (argument : String) : Bool :=
  argument = "process" ∨ argument = "config"

/-- The flags in front of the command. -/
def flagsBefore (arguments : List String) : ℕ :=
  flags (arguments.takeWhile fun argument => !isCommand argument)

/-- The flags behind the command, up to the separator of the arguments that are no options. -/
def flagsAfter (arguments : List String) : ℕ :=
  flags ((arguments.dropWhile fun argument => !isCommand argument).tail.takeWhile (· ≠ "--"))

/-! ### Flags that were read -/

/-- Whether there is a value to wait for: that of an option, or the input. -/
def Slot.holdsValue : Slot → Bool
  | switch s => s.use.takesValue
  | input => true

namespace Progress

/-- The number of flags that were read. -/
def flags (p : Progress) : ℕ :=
  (p.values .verbose).length

/-- Nothing waits without a value to wait for. -/
def IsOrderly (p : Progress) : Prop :=
  ∀ slot value, p.pending = some (slot, value) → slot.holdsValue = true

/-- Reading has come from `p` to `q`, and `n` flags have been added. -/
structure Adds (p q : Progress) (n : ℕ) : Prop where
  flags_eq : q.flags = p.flags + n
  isOrderly : q.IsOrderly

variable {p q r : Progress} {m n : ℕ}

lemma Adds.trans (hpq : p.Adds q m) (hqr : q.Adds r n) : p.Adds r (m + n) :=
  ⟨by rw [hqr.flags_eq, hpq.flags_eq, Nat.add_assoc], hqr.isOrderly⟩

lemma IsOrderly.adds_zero (hp : p.IsOrderly) : p.Adds p 0 :=
  ⟨rfl, hp⟩

/-- An option was given if it has a value. -/
lemma has_iff_values_ne {switch : Switch} : p.has switch = true ↔ p.values switch ≠ [] := by
  rw [values, has, List.any_eq_true, ne_eq, List.filterMap_eq_nil_iff]
  simp

/-- A flag was given if the number of flags is not zero. -/
lemma has_verbose_iff : p.has .verbose = true ↔ p.flags ≠ 0 := by
  rw [has_iff_values_ne, flags, ne_eq, ne_eq, List.length_eq_zero_iff]

/-! ### One step -/

/-- Taking a flag adds it; taking another option adds none. -/
lemma take_adds {switch : Switch} {value : String} (hp : p.IsOrderly)
    (h : p.take switch value = .ok q) : p.Adds q (if switch = .verbose then 1 else 0) := by
  unfold take at h
  -- help, a second time and an empty path are refused
  split at h
  · cases h
  split at h
  · cases h
  split at h
  · cases h
  cases h
  refine ⟨?_, hp⟩
  rw [flags, values, List.filterMap_append, List.length_append]
  split <;> simp [*, flags, values]

lemma ne_verbose_of_takesValue {switch : Switch} (h : switch.use.takesValue = true) :
    switch ≠ .verbose := by
  rintro rfl
  cases h

/-- Taking what waits adds no flag: no flag waits. -/
lemma settle_adds (hp : p.IsOrderly) (h : p.settle = .ok q) : p.Adds q 0 := by
  unfold settle at h
  have hnone (input : Option String) : IsOrderly ⟨p.given, input, none⟩ := by
    intro slot value hpending
    cases hpending
  split at h
  case h_1 =>
    cases h
    exact hp.adds_zero
  case h_2 => cases h
  case h_3 switch value hpending =>
    have hadds := take_adds (hnone p.input) h
    have htakes : switch.use.takesValue = true := hp _ _ hpending
    rw [if_neg (ne_verbose_of_takesValue htakes)] at hadds
    exact ⟨hadds.flags_eq, hadds.isOrderly⟩
  case h_4 =>
    split at h
    · cases h
    · cases h
      exact ⟨rfl, hnone _⟩

/-- Taking what waits and then a flag adds the flag. -/
lemma takeNext_adds {switch : Switch} {value : String} (hp : p.IsOrderly)
    (h : p.takeNext switch value = .ok q) : p.Adds q (if switch = .verbose then 1 else 0) := by
  obtain ⟨r, hsettle, htake⟩ := exists_of_bind_eq_ok h
  have hsettled := settle_adds hp hsettle
  simpa using hsettled.trans (take_adds hsettled.isOrderly htake)

/-- Taking what waits and then an option with its value adds no flag. -/
lemma takeNext_adds_zero {switch : Switch} {value : String} (htakes : switch.use.takesValue = true)
    (hp : p.IsOrderly) (h : p.takeNext switch value = .ok q) : p.Adds q 0 := by
  have hadds := takeNext_adds hp h
  rwa [if_neg (ne_verbose_of_takesValue htakes)] at hadds

/-- Letting an option with a value wait, or the input, adds no flag. -/
lemma await_adds {slot : Slot} {value : Option String} (hp : p.IsOrderly)
    (h : p.await slot value = .ok q) (hslot : slot.holdsValue = true) : p.Adds q 0 := by
  obtain ⟨r, hsettle, hawait⟩ := exists_of_bind_eq_ok h
  have hsettled := settle_adds hp hsettle
  cases hawait
  refine ⟨hsettled.flags_eq, fun slot' value' hpending => ?_⟩
  cases hpending
  exact hslot

end Progress

open Progress

variable {scope : Scope} {p q : Progress}

/-! ### One argument -/

/-- An option that is found by its name has the name. -/
lemma long_of_findLong {name : List Char} {switch : Switch}
    (h : scope.findLong name = some switch) : switch.long.toList = name := by
  have hfound := List.find?_some h
  simpa using hfound

/-- An option that is found by its letter has the letter. -/
lemma short_of_findShort {letter : Char} {switch : Switch}
    (h : scope.findShort letter = some switch) : switch.short? = some letter := by
  have hfound := List.find?_some h
  simpa using hfound

/-- An option by its name is a flag if it has the name of the flag, and no value. -/
lemma readLong_adds {name : List Char} {value : Option String} (hp : p.IsOrderly)
    (h : readLong scope p name value = .ok q) :
    p.Adds q (if name = "verbose".toList ∧ value = none then 1 else 0) := by
  unfold readLong at h
  split at h
  case h_1 => cases h
  case h_2 switch hfound =>
    have hname := long_of_findLong hfound
    have hverbose : name = "verbose".toList ↔ switch = .verbose := by
      rw [← hname]
      cases switch <;> decide
    split at h
    case h_1 htakes =>
      have hadds := takeNext_adds_zero htakes hp h
      rwa [if_neg (by simp)]
    case h_2 htakes =>
      have hadds := await_adds hp h htakes
      have hflag := mt hverbose.1 (ne_verbose_of_takesValue htakes)
      rwa [if_neg fun hboth => hflag hboth.1]
    case h_3 => cases h
    case h_4 =>
      have hadds := takeNext_adds hp h
      simpa only [hverbose, and_true] using hadds

/-- Of joined letters those up to one that takes the rest for its value are flags, if they are `v`. -/
lemma readLetters_adds {letters : List Char} (hp : p.IsOrderly)
    (h : readLetters scope p letters = .ok q) :
    p.Adds q ((letters.takeWhile fun c => !takesRest c).count 'v') := by
  induction letters generalizing p with
  | nil =>
    cases h
    exact hp.adds_zero
  | cons letter rest ih =>
    unfold readLetters at h
    split at h
    case h_1 => cases h
    case h_2 switch hfound =>
      have hletter := short_of_findShort hfound
      have hvalue : switch.use.takesValue = takesRest letter := by
        cases switch <;> cases hletter <;> rfl
      have hverbose : switch = .verbose ↔ letter = 'v' := by
        cases switch <;> cases hletter <;> decide
      split at h
      case isTrue htakes =>
        rw [List.takeWhile_cons_of_neg (by simp [← hvalue, htakes])]
        split at h
        · exact await_adds hp h htakes
        · exact takeNext_adds_zero htakes hp h
        · exact takeNext_adds_zero htakes hp h
      case isFalse htakes =>
        rw [List.takeWhile_cons_of_pos (by simp [← hvalue, htakes]), List.count_cons,
          Nat.add_comm]
        split at h
        · cases h
        case h_2 r hnext =>
          have hadds := takeNext_adds hp hnext
          simpa [hverbose] using hadds.trans (ih hadds.isOrderly h)

/-- An argument that is no option is no flag. -/
lemma readPlain_adds {argument : String} (hp : p.IsOrderly)
    (h : readPlain scope p argument = .ok q) : p.Adds q 0 := by
  unfold readPlain at h
  split at h
  · exact await_adds hp h rfl
  · cases h

/-- The value of an option is no flag. -/
lemma readValue_adds {argument : String} (hp : p.IsOrderly)
    (h : readValue scope p argument = .ok q) : p.Adds q 0 := by
  unfold readValue at h
  split at h
  case h_1 slot hpending =>
    cases h
    refine ⟨rfl, fun slot' value hwaits => ?_⟩
    cases hwaits
    exact hp slot none hpending
  case h_2 => exact readPlain_adds hp h

/-- The flags of an argument by how it reads. -/
def Argument.flags : Argument → ℕ
  | long name value => if name = "verbose".toList ∧ value = none then 1 else 0
  | letters cs => (cs.takeWhile fun c => !takesRest c).count 'v'
  | separator | plain => 0

/-- The flags of an argument are told by its characters. -/
lemma flags_ofChars (argument : String) :
    (Argument.ofChars argument.toList).flags = flagsIn argument := by
  rw [flagsIn]
  generalize argument.toList = cs
  unfold Argument.ofChars
  split
  case h_1 => simp [Argument.flags]
  case h_2 r hne =>
    split
    case h_1 equals value hdrop =>
      have hname : r ≠ "verbose".toList := by
        rintro rfl
        cases hdrop
      rw [Argument.flags, if_neg (by simp)]
      exact (if_neg hname).symm
    case h_2 => simp only [Argument.flags, and_true]
  case h_3 c r _ hsecond =>
    split
    case h_1 heq => cases heq; exact absurd rfl hsecond
    case h_2 heq => cases heq; rfl
    case h_3 hdash => exact (hdash (c :: r) rfl).elim
  case h_4 hdash =>
    split
    case h_1 => exact absurd rfl (hdash _ _)
    case h_2 letters _ _ _ =>
      cases letters with
      | nil => rfl
      | cons c r => exact absurd rfl (hdash c r)
    case h_3 => rfl

/-- **The flags of an argument are those that are read of it.** -/
lemma readArgument_adds {argument : String} (hp : p.IsOrderly)
    (h : readArgument scope p argument = .ok q) : p.Adds q (flagsIn argument) := by
  rw [← flags_ofChars]
  unfold readArgument at h
  cases hread : Argument.ofChars argument.toList <;> rw [hread] at h
  case separator =>
    cases h
    exact hp.adds_zero
  case long => exact readLong_adds hp h
  case letters => exact readLetters_adds hp h
  case plain => exact readValue_adds hp h

/-! ### The arguments after a command -/

@[simp] lemma flags_nil : flags [] = 0 := rfl

@[simp] lemma flags_cons (argument : String) (arguments : List String) :
    flags (argument :: arguments) = flagsIn argument + flags arguments := rfl

/-- No argument behind the separator is a flag. -/
lemma readPlains_adds {arguments : List String} (hp : p.IsOrderly)
    (h : readPlains scope p arguments = .ok q) : p.Adds q 0 := by
  induction arguments generalizing p with
  | nil => exact settle_adds hp h
  | cons argument arguments ih =>
    unfold readPlains at h
    split at h
    case h_1 => cases h
    case h_2 r hread =>
      have hadds := readPlain_adds hp hread
      exact hadds.trans (ih hadds.isOrderly h)

/-- **The flags up to the separator are read one by one.** -/
lemma readScope_adds {arguments : List String} (hp : p.IsOrderly)
    (h : readScope scope p arguments = .ok q) :
    p.Adds q (flags (arguments.takeWhile (· ≠ "--"))) := by
  induction arguments generalizing p with
  | nil => exact settle_adds hp h
  | cons argument arguments ih =>
    unfold readScope at h
    split at h
    case isTrue hseparator =>
      rw [List.takeWhile_cons_of_neg (by simpa using hseparator)]
      exact readPlains_adds hp h
    case isFalse hseparator =>
      rw [List.takeWhile_cons_of_pos (by simpa using hseparator), flags_cons]
      split at h
      case h_1 => cases h
      case h_2 r hread =>
        have hadds := readArgument_adds hp hread
        exact hadds.trans (ih hadds.isOrderly h)

/-! ### The line -/

/-- Nothing waits at the start. -/
lemma isOrderly_start : start.IsOrderly := by
  intro slot value hpending
  cases hpending

variable {invocation : Invocation}

/-- The flags after a command are read, and count in place of those before it. -/
lemma exists_of_readCommand {name : String} {arguments : List String}
    (h : readCommand p name arguments = .ok invocation) :
    isCommand name = true ∧ ∃ after : Progress,
      after.flags = flags (arguments.takeWhile (· ≠ "--")) ∧
      invocation.verbosity = if after.has .verbose then after.verbosity else p.verbosity := by
  rcases readCommand_cases h with ⟨rfl, after, command, hread, -, rfl⟩ | ⟨rfl, after, hread, rfl⟩
  · have hadds := readScope_adds isOrderly_start hread
    exact ⟨by decide, after, hadds.flags_eq.trans (Nat.zero_add _), rfl⟩
  · have hadds := readScope_adds isOrderly_start hread
    exact ⟨by decide, after, hadds.flags_eq.trans (Nat.zero_add _), rfl⟩

/-- **The flags of a line are read on both sides of its command.** -/
lemma exists_of_readLine {arguments : List String} (hp : p.IsOrderly)
    (h : readLine p arguments = .ok invocation) :
    ∃ before after : Progress, before.flags = p.flags + flagsBefore arguments ∧
      after.flags = flagsAfter arguments ∧
      invocation.verbosity = if after.has .verbose then after.verbosity else before.verbosity := by
  induction arguments generalizing p with
  | nil => cases h
  | cons argument arguments ih =>
    rcases readLine_cases h with hcommand | ⟨hname, q, hread, hline⟩
    · obtain ⟨hname, after, hafter, hverbosity⟩ := exists_of_readCommand hcommand
      refine ⟨p, after, ?_, ?_, hverbosity⟩
      · rw [flagsBefore, List.takeWhile_cons_of_neg (by simp [hname])]
        rfl
      · rw [hafter, flagsAfter, List.dropWhile_cons_of_neg (by simp [hname]), List.tail_cons]
    · have hnot : isCommand argument = false := by
        simp only [commandNames, List.mem_cons, not_or] at hname
        simp [isCommand, hname]
      have hadds := readArgument_adds hp hread
      obtain ⟨before, after, hbefore, hafter, hverbosity⟩ := ih hadds.isOrderly hline
      refine ⟨before, after, ?_, ?_, hverbosity⟩
      · rw [hbefore, hadds.flags_eq, flagsBefore, flagsBefore,
          List.takeWhile_cons_of_pos (by simp [hnot]), flags_cons, Nat.add_assoc]
      · rw [hafter, flagsAfter, flagsAfter, List.dropWhile_cons_of_pos (by simp [hnot])]

end Arguments

/-! ### The verbosity -/

/-- The first three flags raise the level, each by one. -/
lemma LogLevel.rank_ofVerbosity (n : ℕ) : (ofVerbosity n).rank = min 3 n := by
  match n with
  | 0 | 1 | 2 => rfl
  | n + 3 => exact (Nat.min_eq_left (Nat.le_add_left 3 n)).symm

namespace Invocation

open Arguments

variable {arguments : List String} {invocation : Invocation}

/-- The verbosity is the number of flags after the command, or if there are none, of those before
it. -/
lemma verbosity_eq (h : ofArguments arguments = .ok invocation) :
    invocation.verbosity = min 255
      (if flagsAfter arguments = 0 then flagsBefore arguments else flagsAfter arguments) := by
  obtain ⟨before, after, hbefore, hafter, hverbosity⟩ := exists_of_readLine isOrderly_start h
  have hstart : Progress.start.flags = 0 := rfl
  rw [hstart, Nat.zero_add] at hbefore
  have hhas := after.has_verbose_iff
  rw [hafter] at hhas
  rw [hverbosity]
  by_cases hnone : flagsAfter arguments = 0
  · rw [if_neg (by rw [hhas]; exact fun hne => hne hnone), if_pos hnone, ← hbefore]
    rfl
  · rw [if_pos (hhas.2 hnone), if_neg hnone, ← hafter]
    rfl

/-- **Flags after the command count in place of those before it.** The verbosity of a line is the
number of the flags after its command, or if there are none, of those before it, up to 255. So it is
the number of all flags exactly if one side has none, or the side after the command has 255. A line
with further flags is logged less exactly if it has the first ones after the command, and these are
fewer than those before it, and fewer than the three that log everything. -/
theorem verbosity_ofArguments (h : ofArguments arguments = .ok invocation) :
    invocation.verbosity = min 255
        (if flagsAfter arguments = 0 then flagsBefore arguments else flagsAfter arguments) ∧
      (invocation.verbosity = min 255 (flagsBefore arguments + flagsAfter arguments) ↔
        flagsBefore arguments = 0 ∨ flagsAfter arguments = 0 ∨ 255 ≤ flagsAfter arguments) ∧
      ∀ further invocation', ofArguments further = .ok invocation' →
        flagsBefore arguments ≤ flagsBefore further → flagsAfter arguments ≤ flagsAfter further →
        ((LogLevel.ofVerbosity invocation'.verbosity).rank <
            (LogLevel.ofVerbosity invocation.verbosity).rank ↔
          flagsAfter arguments = 0 ∧ 0 < flagsAfter further ∧
            flagsAfter further < min 3 (flagsBefore arguments)) := by
  have hverbosity := verbosity_eq h
  refine ⟨hverbosity, ?_, fun further invocation' h' hbefore hafter => ?_⟩
  · rw [hverbosity]
    split <;> omega
  · rw [LogLevel.rank_ofVerbosity, LogLevel.rank_ofVerbosity, hverbosity, verbosity_eq h']
    split <;> split <;> omega

/-- A report of a file, without options. -/
def ofReport (verbosity : ℕ) (input : String) : Invocation :=
  ⟨verbosity, .process ⟨.ofString input, none, none, [], [], false⟩⟩

/-- Two flags before the command, and the same line with one more after it: it is logged less. -/
theorem verbosity_ofArguments_further :
    ofArguments ["-vv", "process", "in.xlsx"] = .ok (ofReport 2 "in.xlsx") ∧
      ofArguments ["-vv", "process", "--verbose", "in.xlsx"] = .ok (ofReport 1 "in.xlsx") ∧
      (LogLevel.ofVerbosity 1).rank < (LogLevel.ofVerbosity 2).rank := by
  have hline : ofArguments ["-vv", "process", "in.xlsx"] = .ok (ofReport 2 "in.xlsx") := rfl
  have hfurther :
      ofArguments ["-vv", "process", "--verbose", "in.xlsx"] = .ok (ofReport 1 "in.xlsx") := rfl
  have hlevel := (verbosity_ofArguments hline).2.2 _ _ hfurther (by decide) (by decide)
  exact ⟨hline, hfurther, hlevel.2 (by decide)⟩

/-- Not all flags are counted: of two before the command and one after it, the one is. -/
theorem not_all_counted :
    ofArguments ["-vv", "process", "-v", "in.xlsx"] = .ok (ofReport 1 "in.xlsx") ∧
      flagsBefore ["-vv", "process", "-v", "in.xlsx"] = 2 ∧
      flagsAfter ["-vv", "process", "-v", "in.xlsx"] = 1 ∧
      (ofReport 1 "in.xlsx").verbosity ≠ min 255 (2 + 1) ∧
      LogLevel.ofVerbosity 1 = .info ∧ LogLevel.ofVerbosity (min 255 (2 + 1)) = .trace := by
  refine ⟨rfl, by decide, by decide, ?_, rfl, rfl⟩
  simp [ofReport]

end Invocation

end Screening
