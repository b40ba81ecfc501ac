/-
Resetting the settings.

A run reads the settings before it follows its command, even if it is to discard them. Where the file
holds settings a reset leaves exactly what its options ask for, whatever the settings were. Where it
holds anything else the reset fails, and the file stays as it was.

* `Settings.exists_save_over`: settings can be saved over their file, whatever it holds.
* `Content.Holds`, `Settings.load_cases`: what a file of settings holds.
* `SettingsRequest.apply_of_reset`: a reset request leaves what its options ask for.
* `Outcome.Resets`: what is known of a run that resets the settings.
* `run_resets`: it holds of every such run, and what such runs leave is the same.
-/
import Screening.Proofs.Delivery
import Screening.Proofs.Paths
import Screening.Proofs.Session

namespace Screening

/-! ### The file of the settings -/

section File

variable {disk : Disk} {home : Path} {content : Content}

/-- The file of the settings lies in a named directory, wherever the home directory is. -/
lemma exists_isBelow_settingsFile (home : Path) :
    ∃ outer directory : Path, outer.EndsInName ∧
      directory.IsBelow outer (Utf8.ofString "compliance-report") ∧
      (settingsFile home).IsBelow directory (Utf8.ofString "config.json") := by
  let outer := home.join (.ofString ".config")
  let directory := outer.join (.ofString "compliance-report")
  have hdirectory : Path.IsName (Utf8.ofString "compliance-report") := ⟨by decide, by decide⟩
  have hfile : Path.IsName (Utf8.ofString "config.json") := ⟨by decide, by decide⟩
  have houter : outer.EndsInName := Path.endsInName_join home ⟨by decide, by decide⟩
  refine ⟨outer, directory, houter, houter.isBelow_join hdirectory, ?_⟩
  show (directory.join (.ofString "config.json")).IsBelow directory _
  exact (Path.endsInName_join outer hdirectory).isBelow_join hfile

/-- The directory of a file of settings that is there need not be made. -/
lemma made_of_read (hread : disk.read (settingsFile home) = .ok content) :
    (settingsFile home).parent?.elim (.ok disk) disk.makeDirectories = .ok disk := by
  obtain ⟨outer, directory, houter, hdirectory, hfile⟩ := exists_isBelow_settingsFile home
  have hne : directory.bytes ≠ [] := by
    rw [hdirectory.bytes]
    exact List.append_ne_nil_of_left_ne_nil houter.ne_nil _
  rw [Path.parent?_of_isBelow hfile hdirectory houter.ne_nil]
  exact Disk.makeDirectories_of_read hfile hne hread

/-- **Settings can be saved over their file.** Whatever it holds, nothing else is changed. -/
theorem Settings.exists_save_over (settings : Settings)
    (hread : disk.read (settingsFile home) = .ok content) :
    ∃ disk', settings.save disk (settingsFile home) = .ok disk' ∧
      disk.WroteOnly disk' (settingsFile home) (.ofString settings.toJson) := by
  obtain ⟨outer, directory, -, -, hfile⟩ := exists_isBelow_settingsFile home
  obtain ⟨place, hplace⟩ := Disk.writable_of_read hfile hread
  have hwrite := hplace.write_eq (.ofString settings.toJson)
  exact ⟨_, save_of_write (made_of_read hread) hwrite, Disk.wroteOnly_write hwrite⟩

end File

/-! ### What the file holds -/

namespace Content

/-- The text of a file; none of a workbook, and none of bytes that are not UTF-8. -/
def text? : Content → Option String
  | bytes bs => (Utf8.decode? bs).map String.ofList
  | workbook _ => none

/-- A file holds settings if its text is one of them. -/
def Holds (content : Content) (settings : Settings) : Prop :=
  ∃ text, content.text? = some text ∧ Settings.ofJson text = .ok settings

lemma text?_ofString (text : String) : (ofString text).text? = some text := by
  rw [ofString, text?, Utf8.decode?_ofString, Option.map_some, String.ofList_toList]

/-- Stored settings are held. -/
lemma holds_toJson (settings : Settings) : (ofString settings.toJson).Holds settings :=
  ⟨settings.toJson, text?_ofString _, settings.ofJson_toJson⟩

end Content

/-- The text of a file that is there is the one of its content. -/
lemma Disk.readText_of_read {disk : Disk} {p : Path} {content : Content}
    (h : disk.read p = .ok content) :
    disk.readText p = content.text?.elim (.error .notText) .ok := by
  rw [readText, h]
  cases content with
  | workbook w => rfl
  | bytes bs =>
    rw [Content.text?]
    dsimp only
    cases Utf8.decode? bs <;> rfl

/-- A file holds settings, and these are loaded; or it holds none, and loading meets a fault of its
text or of its JSON. -/
lemma Settings.load_cases {disk : Disk} {p : Path} {content : Content}
    (hread : disk.read p = .ok content) :
    (∃ settings, content.Holds settings ∧ load disk p = .ok settings) ∨
      (∀ settings, ¬content.Holds settings) ∧
        (load disk p = .error (.io .notText) ∨ ∃ e, load disk p = .error (.settings e)) := by
  rw [load, if_pos (Disk.contains_of_read hread), Disk.readText_of_read hread]
  cases htext : content.text? with
  | none =>
    refine .inr ⟨?_, .inl rfl⟩
    rintro settings ⟨text, hsome, -⟩
    rw [htext] at hsome
    cases hsome
  | some text =>
    cases hparse : ofJson text with
    | ok settings =>
      refine .inl ⟨settings, ⟨text, htext, hparse⟩, ?_⟩
      show (ofJson text).mapError _ = _
      rw [hparse]
      rfl
    | error e =>
      refine .inr ⟨?_, .inr ⟨e, ?_⟩⟩
      · rintro settings ⟨other, hother, hsettings⟩
        cases htext.symm.trans hother
        cases hparse.symm.trans hsettings
      · show (ofJson text).mapError _ = _
        rw [hparse]
        rfl

/-! ### Requests for a reset -/

namespace SettingsRequest

variable {request : SettingsRequest} {settings : Settings} {disk disk' : Disk} {file : Path}

/-- A reset asks for a change. -/
lemma changes_of_reset (h : request.reset = true) : request.changes = true := by
  rw [changes, h, Bool.true_or]

/-- **A reset discards the settings.** -/
theorem apply_of_reset (h : request.reset = true) (settings : Settings) :
    request.apply settings = request.apply .initial := by
  rw [apply, apply, h]
  rfl

/-- After a reset there are the added keywords that are not removed. -/
lemma asSet_keywords_of_reset (h : request.reset = true) (settings : Settings) :
    (request.apply settings).criteria.keywords.asSet
      = (trimmedSet request.addKeyword \ {""}) \ trimmedSet request.removeKeyword := by
  rw [asSet_keywords_apply, changedEntries, if_pos h, Set.empty_union]

/-- After a reset there are the added codes that are not removed. -/
lemma asSet_codes_of_reset (h : request.reset = true) (settings : Settings) :
    (request.apply settings).criteria.codes.asSet
      = (trimmedSet request.addCode \ {""}) \ trimmedSet request.removeCode := by
  rw [asSet_codes_apply, changedEntries, if_pos h, Set.empty_union]

/-- What is printed once the settings are reset. -/
def resetText (request : SettingsRequest) (file : Path) : String :=
  textLine ["✔ 設定を保存しました: ", file.text] ++
    if request.display then (request.apply .initial).text else ""

/-- A reset that can be saved is. -/
lemma run_of_reset (h : request.reset = true)
    (hsave : (request.apply .initial).save disk file = .ok disk') :
    request.run settings disk file = ⟨0, request.resetText file, "", disk'⟩ := by
  rw [run, apply_of_reset h, changes_of_reset h, hsave, Bool.not_true, Bool.or_false]
  rfl

end SettingsRequest

/-! ### Runs -/

/-- What is known of a run that is asked to reset the settings, where their file holds a content. -/
structure Outcome.Resets (outcome : Outcome) (request : SettingsRequest) (disk : Disk) (file : Path)
    (content : Content) : Prop where
  /-- It succeeds exactly if the file held settings. -/
  succeeds : outcome.code = 0 ↔ ∃ settings, content.Holds settings
  /-- It then says so, with the settings that it leaves if it is asked to show them. -/
  printed : outcome.code = 0 → outcome.stdout = request.resetText file ∧ outcome.stderr = ""
  /-- It writes the file and nothing else. -/
  stored : outcome.code = 0 →
    disk.WroteOnly outcome.disk file (.ofString (request.apply .initial).toJson)
  /-- The file then holds the sets that its options ask for. -/
  loads : outcome.code = 0 → ∃ settings, Settings.load outcome.disk file = .ok settings ∧
    settings.criteria.keywords.asSet
      = (trimmedSet request.addKeyword \ {""}) \ trimmedSet request.removeKeyword ∧
    settings.criteria.codes.asSet
      = (trimmedSet request.addCode \ {""}) \ trimmedSet request.removeCode
  /-- Otherwise it fails, prints no settings and changes no file. -/
  failed : outcome.code ≠ 0 → outcome.code = 1 ∧ outcome.stdout = "" ∧ outcome.disk = disk

section Reset

variable {arguments : List String} {verbosity : ℕ} {request : SettingsRequest} {home : Path}
  {disk : Disk} {content : Content}

/-- A line whose settings cannot be loaded is not followed. -/
lemma run_of_load_error {command : Command} {e : Error}
    (hline : Invocation.ofArguments arguments = .ok ⟨verbosity, command⟩)
    (hload : Settings.load disk (settingsFile home) = .error e) :
    run arguments disk home = .failed disk "" (some "設定の読み込みに失敗しました") e := by
  rw [run, hline]
  show command.run disk (settingsFile home) = _
  rw [Command.run, hload]

/-- A reset over settings leaves what its options ask for. -/
lemma resets_of_holds {settings : Settings}
    (hline : Invocation.ofArguments arguments = .ok ⟨verbosity, .config request⟩)
    (hreset : request.reset = true) (hread : disk.read (settingsFile home) = .ok content)
    (hholds : content.Holds settings)
    (hload : Settings.load disk (settingsFile home) = .ok settings) :
    (run arguments disk home).Resets request disk (settingsFile home) content := by
  obtain ⟨disk', hsave, honly⟩ := (request.apply .initial).exists_save_over hread
  rw [run_config hline hload, SettingsRequest.run_of_reset hreset hsave]
  exact ⟨iff_of_true rfl ⟨settings, hholds⟩, fun _ => ⟨rfl, rfl⟩, fun _ => honly,
    fun _ => ⟨_, Settings.load_save hsave, SettingsRequest.asSet_keywords_of_reset hreset _,
      SettingsRequest.asSet_codes_of_reset hreset _⟩, fun h => absurd rfl h⟩

/-- A reset over anything else fails. -/
lemma resets_of_not_holds {e : Error}
    (hline : Invocation.ofArguments arguments = .ok ⟨verbosity, .config request⟩)
    (hnot : ∀ settings, ¬content.Holds settings)
    (hload : Settings.load disk (settingsFile home) = .error e)
    (he : e = .io .notText ∨ ∃ fault, e = .settings fault) :
    (run arguments disk home).Resets request disk (settingsFile home) content := by
  rw [run_of_load_error hline hload]
  have hfails := Outcome.fails_failed disk "" (some "設定の読み込みに失敗しました") e
  have hcode : (Outcome.failed disk "" (some "設定の読み込みに失敗しました") e).code = 1 := by
    rcases he with rfl | ⟨fault, rfl⟩ <;> rfl
  exact ⟨iff_of_false hfails.code (not_exists.2 hnot), fun h => absurd h hfails.code,
    fun h => absurd h hfails.code, fun h => absurd h hfails.code,
    fun _ => ⟨hcode, hfails.stdout, hfails.disk⟩⟩

/-- Whatever the file held, a reset that succeeds leaves the same. -/
lemma Outcome.Resets.same {outcome outcome' : Outcome} {disk' : Disk} {content' : Content}
    {file : Path} (h : outcome.Resets request disk file content)
    (h' : outcome'.Resets request disk' file content') (hcode : outcome.code = 0)
    (hcode' : outcome'.code = 0) :
    outcome.stdout = outcome'.stdout ∧ outcome.stderr = outcome'.stderr ∧
      outcome.disk.read file = outcome'.disk.read file := by
  obtain ⟨hstdout, hstderr⟩ := h.printed hcode
  obtain ⟨hstdout', hstderr'⟩ := h'.printed hcode'
  exact ⟨hstdout.trans hstdout'.symm, hstderr.trans hstderr'.symm,
    (h.stored hcode).holds.trans (h'.stored hcode').holds.symm⟩

/-- **A reset over a file.** A line that asks for a reset leaves what its options ask for if the file
holds settings, and the same whatever these are; if the file holds anything else it fails and leaves
the file as it was. -/
theorem run_resets
    (hline : Invocation.ofArguments arguments = .ok ⟨verbosity, .config request⟩)
    (hreset : request.reset = true) (home : Path) :
    (∀ disk content, disk.read (settingsFile home) = .ok content →
      (run arguments disk home).Resets request disk (settingsFile home) content) ∧
    ∀ disk disk' content content' settings settings',
      disk.read (settingsFile home) = .ok content → content.Holds settings →
      disk'.read (settingsFile home) = .ok content' → content'.Holds settings' →
        (run arguments disk home).stdout = (run arguments disk' home).stdout ∧
        (run arguments disk home).stderr = (run arguments disk' home).stderr ∧
        (run arguments disk home).disk.read (settingsFile home)
          = (run arguments disk' home).disk.read (settingsFile home) := by
  have hresets : ∀ disk content, disk.read (settingsFile home) = .ok content →
      (run arguments disk home).Resets request disk (settingsFile home) content := by
    intro disk content hread
    rcases Settings.load_cases hread with
      ⟨settings, hholds, hload⟩ | ⟨hnot, hload | ⟨fault, hload⟩⟩
    · exact resets_of_holds hline hreset hread hholds hload
    · exact resets_of_not_holds hline hnot hload (.inl rfl)
    · exact resets_of_not_holds hline hnot hload (.inr ⟨fault, rfl⟩)
  refine ⟨hresets, ?_⟩
  intro disk disk' content content' settings settings' hread hholds hread' hholds'
  have h := hresets disk content hread
  have h' := hresets disk' content' hread'
  exact h.same h' (h.succeeds.2 ⟨settings, hholds⟩) (h'.succeeds.2 ⟨settings', hholds'⟩)

end Reset

/-! ### Two files -/

open Session (someHome)

/-- Files with a home directory whose file of settings has a content. -/
def homeWith (content : Content) : Disk where
  nodes :=
    [(["home", ".config", "compliance-report", "config.json"].map Utf8.ofString, .file content),
      (["home", ".config", "compliance-report"].map Utf8.ofString, .directory),
      (["home", ".config"].map Utf8.ofString, .directory),
      (["home"].map Utf8.ofString, .directory)]
  current := []

/-- The content of the file of settings is read. -/
lemma read_homeWith (content : Content) :
    (homeWith content).read (settingsFile someHome) = .ok content := rfl

/-- A line that resets the settings and adds a keyword. -/
def resetLine : List String := ["config", "--reset", "--add-keyword", "a"]

/-- What the line asks for. -/
def resetRequest : SettingsRequest where
  addKeyword := ["a"]
  removeKeyword := []
  addCode := []
  removeCode := []
  reset := true
  display := false

/-- The line parses. -/
lemma ofArguments_resetLine : Invocation.ofArguments resetLine = .ok ⟨0, .config resetRequest⟩ := by
  decide

/-- Stored settings with a code are reset. -/
theorem run_resets_code :
    ∃ content settings,
      (homeWith content).read (settingsFile someHome) = .ok content ∧
      content.Holds settings ∧ "RU" ∈ settings.criteria.codes ∧
      (run resetLine (homeWith content) someHome).code = 0 ∧
      (run resetLine (homeWith content) someHome).Resets resetRequest (homeWith content)
        (settingsFile someHome) content := by
  let settings : Settings := ⟨⟨.empty, .ofList ["RU"]⟩⟩
  let content : Content := .ofString settings.toJson
  have hholds : content.Holds settings := Content.holds_toJson settings
  have hread := read_homeWith content
  have hresets := (run_resets ofArguments_resetLine rfl someHome).1 _ _ hread
  have hcode := hresets.succeeds.2 ⟨settings, hholds⟩
  exact ⟨content, settings, hread, hholds, by decide, hcode, hresets⟩

/-- A file that ends after its first brace keeps the settings from being reset. -/
theorem not_reset_broken :
    let broken := homeWith (.ofString "\x7b")
    Invocation.ofArguments resetLine = .ok ⟨0, .config resetRequest⟩ ∧ resetRequest.reset = true ∧
      broken.read (settingsFile someHome) = .ok (.ofString "\x7b") ∧
      (run resetLine broken someHome).code = 1 ∧
      (run resetLine broken someHome).disk = broken := by
  intro broken
  exact ⟨ofArguments_resetLine, rfl, read_homeWith _, by decide +kernel, by decide +kernel⟩

end Screening
