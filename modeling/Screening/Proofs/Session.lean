/-
The settings over a session.

A session is a sequence of runs that change or show the settings, each on the files that the run
before it left. Where no settings were at first, the file holds after every run what the requests
ask for, one after the other; if the file cannot be written no request changes anything. A run that
makes a report uses what the file holds.

* `Session`: the runs, with their requests and the files that they leave.
* `Session.Keeps`: what is known of the settings after a session.
* `Session.keeps`: it holds after every session that starts without settings.
* `Session.not_holdsRequested_blocked`: a file that cannot be written does not hold it.
-/
import Screening.Proofs.Changes
import Screening.Proofs.Stored

namespace Screening

/-! ### One run -/

section Step

variable {arguments : List String} {verbosity : ℕ} {disk : Disk} {home : Path}
  {settings : Settings}

/-- A line that changes the settings is followed with those that the file holds. -/
lemma run_config {request : SettingsRequest}
    (hline : Invocation.ofArguments arguments = .ok ⟨verbosity, .config request⟩)
    (hload : Settings.load disk (settingsFile home) = .ok settings) :
    run arguments disk home = request.run settings disk (settingsFile home) := by
  rw [run, hline]
  show (Command.config request).run disk (settingsFile home) = _
  rw [Command.run, hload]

/-- A line that makes a report is followed with the settings that the file holds. -/
lemma run_process {request : ReportRequest}
    (hline : Invocation.ofArguments arguments = .ok ⟨verbosity, .process request⟩)
    (hload : Settings.load disk (settingsFile home) = .ok settings) :
    run arguments disk home = request.run settings disk := by
  rw [run, hline]
  show (Command.process request).run disk (settingsFile home) = _
  rw [Command.run, hload]

/-- A request without changes leaves the files as they are. -/
lemma SettingsRequest.run_of_isIdle {request : SettingsRequest} (h : request.IsIdle)
    (settings : Settings) (disk : Disk) (file : Path) :
    (request.run settings disk file).code = 0 ∧ (request.run settings disk file).disk = disk := by
  rw [SettingsRequest.run, (request.changes_eq_false_iff).2 h]
  exact ⟨rfl, rfl⟩

/-- A request with changes saves the settings that it makes. -/
lemma SettingsRequest.run_of_save {request : SettingsRequest} (h : ¬request.IsIdle)
    {disk' : Disk} {file : Path} (hsave : (request.apply settings).save disk file = .ok disk') :
    (request.run settings disk file).code = 0 ∧ (request.run settings disk file).disk = disk' := by
  rw [← request.changes_eq_false_iff, Bool.not_eq_false] at h
  rw [SettingsRequest.run, h, hsave]
  exact ⟨rfl, rfl⟩

/-- A request with changes that cannot be saved fails, and leaves the files as they are. -/
lemma SettingsRequest.run_of_not_savable {request : SettingsRequest} (h : ¬request.IsIdle)
    {file : Path} (hsave : ¬Settings.Savable disk file) :
    (request.run settings disk file).code = 1 ∧ (request.run settings disk file).disk = disk := by
  rw [← request.changes_eq_false_iff, Bool.not_eq_false] at h
  rw [SettingsRequest.run, h]
  cases hs : (request.apply settings).save disk file with
  | ok disk' => exact absurd (Settings.savable_of_save hs) hsave
  | error e =>
    obtain ⟨e', rfl⟩ := Settings.save_error hs
    exact ⟨rfl, rfl⟩

/-- A report without criteria of its own is made under those of the settings and the entries given
for the run. -/
lemma ReportRequest.run_eq_runUnder {request : ReportRequest} (h : request.config = none)
    (settings : Settings) (disk : Disk) :
    request.run settings disk
      = request.runUnder (settings.criteria.extended request.keywords request.codes) disk := by
  rw [ReportRequest.run, Settings.resolve, h]
  rfl

end Step

/-! ### Sessions -/

/-- Runs that change or show the settings, one after the other: the requests, and the files that
the last of them left. -/
inductive Session (home : Path) (start : Disk) : List SettingsRequest → Disk → Prop where
  | start : Session home start [] start
  | more {requests : List SettingsRequest} {disk : Disk} {arguments : List String} {verbosity : ℕ}
      {request : SettingsRequest} :
      Session home start requests disk →
      Invocation.ofArguments arguments = .ok ⟨verbosity, .config request⟩ →
      Session home start (requests ++ [request]) (run arguments disk home).disk

namespace Session

variable {home : Path} {start disk : Disk} {requests : List SettingsRequest}

/-- The settings hold what was requested. -/
structure HoldsRequested (requests : List SettingsRequest) (settings : Settings) : Prop where
  keywords : settings.criteria.keywords.asSet = requestedKeywords requests
  codes : settings.criteria.codes.asSet = requestedCodes requests

/-- The initial settings hold what no request asked for. -/
lemma holdsRequested_initial : HoldsRequested [] .initial :=
  ⟨EntrySet.asSet_empty, EntrySet.asSet_empty⟩

/-- One more request is applied to what was requested before. -/
lemma HoldsRequested.apply {settings : Settings} (h : HoldsRequested requests settings)
    (request : SettingsRequest) :
    HoldsRequested (requests ++ [request]) (request.apply settings) := by
  constructor
  · calc (request.apply settings).criteria.keywords.asSet
        = changedEntries request.reset request.addKeyword request.removeKeyword
            settings.criteria.keywords.asSet := request.asSet_keywords_apply settings
      _ = changedEntries request.reset request.addKeyword request.removeKeyword
            (requestedKeywords requests) := by rw [h.keywords]
      _ = requestedKeywords (requests ++ [request]) := (requestedKeywords_append _ _).symm
  · calc (request.apply settings).criteria.codes.asSet
        = changedEntries request.reset request.addCode request.removeCode
            settings.criteria.codes.asSet := request.asSet_codes_apply settings
      _ = changedEntries request.reset request.addCode request.removeCode
            (requestedCodes requests) := by rw [h.codes]
      _ = requestedCodes (requests ++ [request]) := (requestedCodes_append _ _).symm

/-- Where the file can be written it holds after every run what was requested. -/
lemma exists_holdsRequested (h : Session home start requests disk)
    (hnone : start.contains (settingsFile home) = false)
    (hsave : Settings.Savable start (settingsFile home)) :
    Settings.Savable disk (settingsFile home) ∧
      ∃ settings, Settings.load disk (settingsFile home) = .ok settings ∧
        HoldsRequested requests settings := by
  induction h with
  | start => exact ⟨hsave, .initial, Settings.load_of_not_contains hnone, holdsRequested_initial⟩
  | @more requests disk arguments verbosity request _ hline ih =>
    obtain ⟨hsavable, settings, hload, hholds⟩ := ih
    rw [run_config hline hload]
    by_cases hidle : request.IsIdle
    · rw [(SettingsRequest.run_of_isIdle hidle settings disk _).2]
      refine ⟨hsavable, settings, hload, ?_⟩
      have happlied := hholds.apply request
      rwa [SettingsRequest.apply_of_isIdle hidle] at happlied
    · obtain ⟨disk', hdisk'⟩ := hsavable (request.apply settings)
      rw [(SettingsRequest.run_of_save hidle hdisk').2]
      exact ⟨Settings.savable_save hdisk', request.apply settings, Settings.load_save hdisk',
        hholds.apply request⟩

/-- Where the file cannot be written no run changes a file. -/
lemma disk_eq_start (h : Session home start requests disk)
    (hnone : start.contains (settingsFile home) = false)
    (hsave : ¬Settings.Savable start (settingsFile home)) : disk = start := by
  induction h with
  | start => rfl
  | @more requests disk arguments verbosity request _ hline ih =>
    subst ih
    rw [run_config hline (Settings.load_of_not_contains hnone)]
    by_cases hidle : request.IsIdle
    · exact (SettingsRequest.run_of_isIdle hidle _ _ _).2
    · exact (SettingsRequest.run_of_not_savable hidle hsave).2

/-- What is known of the settings after a session that starts without any. -/
structure Keeps (home : Path) (start : Disk) (requests : List SettingsRequest) (disk : Disk)
    (settings : Settings) : Prop where
  /-- The settings are those that the file holds, the initial ones if there is none. -/
  load : Settings.load disk (settingsFile home) = .ok settings
  /-- Where the file can be written they hold what was requested, and nothing else. -/
  requested : Settings.Savable start (settingsFile home) → HoldsRequested requests settings
  /-- Where it cannot be written they are the initial ones, and no file was changed. -/
  unsaved : ¬Settings.Savable start (settingsFile home) → settings = .initial ∧ disk = start
  /-- Every entry is trimmed and not blank. -/
  kept : ∀ e ∈ settings.criteria.keywords.asSet ∪ settings.criteria.codes.asSet, IsKept e
  /-- A further run that asks for no change makes none. -/
  idle : ∀ {arguments : List String} {verbosity : ℕ} {request : SettingsRequest},
    Invocation.ofArguments arguments = .ok ⟨verbosity, .config request⟩ → request.IsIdle →
      (run arguments disk home).code = 0 ∧ (run arguments disk home).disk = disk
  /-- A further run that asks for a change fails, and makes none, iff the file cannot be written. -/
  changing : ∀ {arguments : List String} {verbosity : ℕ} {request : SettingsRequest},
    Invocation.ofArguments arguments = .ok ⟨verbosity, .config request⟩ → ¬request.IsIdle →
      (Settings.Savable start (settingsFile home) → (run arguments disk home).code = 0) ∧
      (¬Settings.Savable start (settingsFile home) →
        (run arguments disk home).code = 1 ∧ (run arguments disk home).disk = disk)
  /-- A report is made under the settings and the trimmed entries given for it. -/
  process : ∀ {arguments : List String} {verbosity : ℕ} {request : ReportRequest},
    Invocation.ofArguments arguments = .ok ⟨verbosity, .process request⟩ → request.config = none →
      ∃ criteria : Criteria, run arguments disk home = request.runUnder criteria disk ∧
        criteria.keywords.asSet
          = settings.criteria.keywords.asSet ∪ (trimmedSet request.keywords \ {""}) ∧
        criteria.codes.asSet = settings.criteria.codes.asSet ∪ (trimmedSet request.codes \ {""})

/-- The entries that were requested are trimmed and not blank. -/
lemma HoldsRequested.isKept {settings : Settings} (h : HoldsRequested requests settings) :
    ∀ e ∈ settings.criteria.keywords.asSet ∪ settings.criteria.codes.asSet, IsKept e := by
  rw [h.keywords, h.codes]
  rintro e (he | he)
  · exact isKept_of_mem_requestedKeywords he
  · exact isKept_of_mem_requestedCodes he

/-- The clauses about a further run follow from what the file holds. -/
lemma keeps_of_load {settings : Settings}
    (hload : Settings.load disk (settingsFile home) = .ok settings)
    (hkept : ∀ e ∈ settings.criteria.keywords.asSet ∪ settings.criteria.codes.asSet, IsKept e)
    (hrequested : Settings.Savable start (settingsFile home) →
      Settings.Savable disk (settingsFile home) ∧ HoldsRequested requests settings)
    (hunsaved : ¬Settings.Savable start (settingsFile home) → settings = .initial ∧ disk = start) :
    Keeps home start requests disk settings where
  load := hload
  requested hsave := (hrequested hsave).2
  unsaved := hunsaved
  kept := hkept
  idle hline hidle := by
    rw [run_config hline hload]
    exact SettingsRequest.run_of_isIdle hidle _ _ _
  changing {_ _ request} hline hidle := by
    rw [run_config hline hload]
    refine ⟨fun hsave => ?_, fun hsave => ?_⟩
    · obtain ⟨disk', hdisk'⟩ := (hrequested hsave).1 (request.apply settings)
      exact (SettingsRequest.run_of_save hidle hdisk').1
    · refine SettingsRequest.run_of_not_savable hidle ?_
      rwa [(hunsaved hsave).2]
  process {_ _ request} hline hconfig := by
    refine ⟨settings.criteria.extended request.keywords request.codes, ?_,
      Criteria.asSet_keywords_extended _ _ _, Criteria.asSet_codes_extended _ _ _⟩
    rw [run_process hline hload]
    exact ReportRequest.run_eq_runUnder hconfig _ _

/-- **The settings keep what was requested.** After every session that starts without settings the
file holds what the requests ask for, one after the other, or it cannot be written and every run
that asks for a change fails; a report is made under what the file holds. -/
theorem keeps (h : Session home start requests disk)
    (hnone : start.contains (settingsFile home) = false) :
    ∃ settings, Keeps home start requests disk settings := by
  by_cases hsave : Settings.Savable start (settingsFile home)
  · obtain ⟨hsavable, settings, hload, hholds⟩ := h.exists_holdsRequested hnone hsave
    exact ⟨settings, keeps_of_load hload hholds.isKept (fun _ => ⟨hsavable, hholds⟩)
      fun hunsaved => absurd hsave hunsaved⟩
  · have hdisk := h.disk_eq_start hnone hsave
    have hload : Settings.load disk (settingsFile home) = .ok .initial := by
      rw [hdisk]
      exact Settings.load_of_not_contains hnone
    exact ⟨.initial, keeps_of_load hload holdsRequested_initial.isKept
      (fun hsaved => absurd hsaved hsave) fun _ => ⟨rfl, hdisk⟩⟩

/-! ### Two homes -/

/-- A home directory. -/
def someHome : Path := .ofString "/home"

/-- Files with an empty home directory. -/
def emptyHome : Disk where
  nodes := [([Utf8.ofString "home"], .directory)]
  current := []

/-- Files with a home directory in which a file stands in the way of the settings. -/
def blockedHome : Disk :=
  emptyHome.set [Utf8.ofString "home", Utf8.ofString ".config"] (.file (.ofString "x"))

/-- A line that adds a keyword. -/
def addLine : List String := ["config", "--add-keyword", " a "]

/-- What the line asks for. -/
def addRequest : SettingsRequest where
  addKeyword := [" a "]
  removeKeyword := []
  addCode := []
  removeCode := []
  reset := false
  display := false

/-- The line parses. -/
lemma ofArguments_addLine : Invocation.ofArguments addLine = .ok ⟨0, .config addRequest⟩ := by
  decide

/-- The keyword that the line asks for is kept without the white space around it. -/
lemma mem_requestedKeywords_addRequest : "a" ∈ requestedKeywords [addRequest] := by
  refine ⟨.inr ⟨⟨" a ", List.mem_cons_self, by decide⟩, ?_⟩, ?_⟩
  · exact fun h => absurd (Set.mem_singleton_iff.1 h) (by decide)
  · rintro ⟨entry, hmem, -⟩
    exact absurd hmem List.not_mem_nil

/-- In an empty home directory the settings are kept. -/
theorem keeps_added :
    emptyHome.contains (settingsFile someHome) = false ∧
      Settings.Savable emptyHome (settingsFile someHome) ∧
      ∃ settings,
        Keeps someHome emptyHome [addRequest] (run addLine emptyHome someHome).disk settings ∧
          "a" ∈ settings.criteria.keywords.asSet := by
  have hnone : emptyHome.contains (settingsFile someHome) = false := by decide
  have hsavable : Settings.Savable emptyHome (settingsFile someHome) := by
    cases hsave : Settings.initial.save emptyHome (settingsFile someHome) with
    | ok disk => exact Settings.savable_of_save hsave
    | error e =>
      have hok : (Settings.initial.save emptyHome (settingsFile someHome)).isOk = true := by
        decide +kernel
      rw [hsave] at hok
      cases hok
  obtain ⟨settings, hkeeps⟩ := keeps (Session.start.more ofArguments_addLine) hnone
  refine ⟨hnone, hsavable, settings, hkeeps, ?_⟩
  rw [(hkeeps.requested hsavable).keywords]
  exact mem_requestedKeywords_addRequest

/-- Where a file stands in the way of the settings they do not hold what was requested. -/
theorem not_holdsRequested_blocked :
    Session someHome blockedHome [addRequest] (run addLine blockedHome someHome).disk ∧
      blockedHome.contains (settingsFile someHome) = false ∧
      ¬∃ settings,
        Settings.load (run addLine blockedHome someHome).disk (settingsFile someHome)
          = .ok settings ∧ HoldsRequested [addRequest] settings := by
  have hnone : blockedHome.contains (settingsFile someHome) = false := by decide
  have hdisk : (run addLine blockedHome someHome).disk = blockedHome := by decide +kernel
  refine ⟨Session.start.more ofArguments_addLine, hnone, ?_⟩
  rintro ⟨settings, hload, hholds⟩
  rw [hdisk, Settings.load_of_not_contains hnone] at hload
  cases hload
  have hmem := mem_requestedKeywords_addRequest
  rw [← hholds.keywords] at hmem
  exact EntrySet.not_mem_empty "a" hmem

end Session

end Screening
