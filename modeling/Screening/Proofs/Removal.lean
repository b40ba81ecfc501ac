/-
Removing the entries that settings hold.

A removal trims what it is given and looks for that. Entries that were added by hand are trimmed, but
those of a file are kept as they are written there, and a file can give any settings. So an entry is
removed by its own name exactly if it has no white space at its ends; if it has some, no name removes
it, and nothing but a reset does.

* `EntrySet.removes_removeTrimmed_iff`: when a set loses the entry that is named.
* `SettingsRequest.mem_keywords_apply_of_padded`: a padded keyword stays without a reset.
* `Session.isTrimmed`: the settings of a session hold no padded entries.
* `Settings.removes_named_iff`: what is known of removals from any settings.
-/
import Screening.Proofs.Padding
import Screening.Proofs.Session

namespace Screening

open Text (trim)

/-! ### Sets of entries -/

namespace EntrySet

variable {set : EntrySet} {entry : String}

/-- A removal that finds an entry and leaves exactly the others. -/
structure Removes (set : EntrySet) (entry : String) (result : EntrySet × Bool) : Prop where
  found : result.2 = true
  others : ∀ e, e ∈ result.1 ↔ e ∈ set ∧ e ≠ entry

/-- **An entry is removed by its name exactly if it is trimmed.** -/
theorem removes_removeTrimmed_iff (h : entry ∈ set) :
    set.Removes entry (set.removeTrimmed entry) ↔ trim entry = entry := by
  constructor
  · intro hremoves
    by_contra hpadded
    -- the entry is none of the others, but only the trimmed one was taken away
    have hstays : entry ∈ (set.removeTrimmed entry).1 := mem_erase.2 ⟨h, fun he => hpadded he.symm⟩
    exact ((hremoves.others entry).1 hstays).2 rfl
  · intro htrim
    rw [removeTrimmed, htrim]
    exact ⟨decide_eq_true h, fun e => mem_erase⟩

/-- Changes without a reset leave an entry that no name can mean. -/
lemma mem_changed_of_padded (h : entry ∈ set) (hpadded : trim entry ≠ entry)
    (added removed : List String) : entry ∈ set.changed false added removed := by
  have hremoved : entry ∉ trimmedSet removed := by
    rintro ⟨name, -, rfl⟩
    exact hpadded (Text.trim_trim name)
  rw [← mem_asSet, asSet_changed]
  exact ⟨.inl h, hremoved⟩

end EntrySet

namespace SettingsRequest

variable {request : SettingsRequest} {settings : Settings} {e : String}

/-- A keyword with white space at its ends stays whatever is asked for but a reset. -/
theorem mem_keywords_apply_of_padded (hreset : request.reset = false)
    (h : e ∈ settings.criteria.keywords) (hpadded : trim e ≠ e) :
    e ∈ (request.apply settings).criteria.keywords := by
  rw [apply_eq, hreset]
  exact EntrySet.mem_changed_of_padded h hpadded _ _

/-- A code with white space at its ends stays whatever is asked for but a reset. -/
theorem mem_codes_apply_of_padded (hreset : request.reset = false)
    (h : e ∈ settings.criteria.codes) (hpadded : trim e ≠ e) :
    e ∈ (request.apply settings).criteria.codes := by
  rw [apply_eq, hreset]
  exact EntrySet.mem_changed_of_padded h hpadded _ _

end SettingsRequest

/-- Settings that were only ever changed by hand hold trimmed entries. -/
theorem Session.isTrimmed {home : Path} {start disk : Disk} {requests : List SettingsRequest}
    {settings : Settings} (h : Session home start requests disk)
    (hnone : start.contains (settingsFile home) = false)
    (hload : Settings.load disk (settingsFile home) = .ok settings) :
    settings.criteria.IsTrimmed := by
  have hkept : ∀ e ∈ settings.criteria.keywords.asSet ∪ settings.criteria.codes.asSet, IsKept e := by
    by_cases hsave : Settings.Savable start (settingsFile home)
    · obtain ⟨-, stored, hstored, hholds⟩ := h.exists_holdsRequested hnone hsave
      cases hstored.symm.trans hload
      exact hholds.isKept
    · rw [h.disk_eq_start hnone hsave, Settings.load_of_not_contains hnone] at hload
      cases hload
      exact holdsRequested_initial.isKept
  exact ⟨fun e he => (hkept e (.inl he)).2, fun e he => (hkept e (.inr he)).2⟩

/-! ### Settings -/

namespace Settings

/-- A path right below the root. -/
def rootFile : Path := .ofString "/s"

/-- A file can be put right below the root. -/
lemma receives_emptyRoot : emptyRoot.Receives rootFile :=
  ⟨emptyRoot, [Utf8.ofString "s"], by decide,
    ⟨by decide, by decide, ⟨[], by decide, by decide⟩, by decide⟩⟩

/-- Any settings are those of some file. -/
lemma exists_load_eq (settings : Settings) : ∃ disk p, load disk p = .ok settings := by
  obtain ⟨disk, hsave⟩ := settings.exists_save_iff.2 receives_emptyRoot
  exact ⟨disk, rootFile, load_save hsave⟩

/-- A removal of a keyword: it is found, exactly the other keywords stay, and all codes do. -/
def RemovesKeyword (settings : Settings) (entry : String) (result : Settings × Bool) : Prop :=
  settings.criteria.keywords.Removes entry (result.1.criteria.keywords, result.2) ∧
    result.1.criteria.codes = settings.criteria.codes

/-- A removal of a code: it is found, exactly the other codes stay, and all keywords do. -/
def RemovesCode (settings : Settings) (entry : String) (result : Settings × Bool) : Prop :=
  settings.criteria.codes.Removes entry (result.1.criteria.codes, result.2) ∧
    result.1.criteria.keywords = settings.criteria.keywords

variable {settings : Settings} {e : String}

lemma removesKeyword_removeKeyword_iff (h : e ∈ settings.criteria.keywords) :
    settings.RemovesKeyword e (settings.removeKeyword e) ↔ trim e = e :=
  (and_iff_left rfl).trans (EntrySet.removes_removeTrimmed_iff h)

lemma removesCode_removeCode_iff (h : e ∈ settings.criteria.codes) :
    settings.RemovesCode e (settings.removeCode e) ↔ trim e = e :=
  (and_iff_left rfl).trans (EntrySet.removes_removeTrimmed_iff h)

/-- Every entry of the settings is removed by its own name. -/
def RemovesNamed (settings : Settings) : Prop :=
  (∀ e ∈ settings.criteria.keywords, settings.RemovesKeyword e (settings.removeKeyword e)) ∧
    ∀ e ∈ settings.criteria.codes, settings.RemovesCode e (settings.removeCode e)

/-- All entries are removed by their names exactly if all are trimmed. -/
lemma removesNamed_iff_isTrimmed : settings.RemovesNamed ↔ settings.criteria.IsTrimmed := by
  constructor
  · rintro ⟨hkeywords, hcodes⟩
    exact ⟨fun e he => (removesKeyword_removeKeyword_iff he).1 (hkeywords e he),
      fun e he => (removesCode_removeCode_iff he).1 (hcodes e he)⟩
  · intro htrimmed
    exact ⟨fun e he => (removesKeyword_removeKeyword_iff he).2 (htrimmed.keywords e he),
      fun e he => (removesCode_removeCode_iff he).2 (htrimmed.codes e he)⟩

/-- **Removals by name.** Any settings are those of some file. An entry that they hold is removed by
its own name, with nothing else, exactly if it is trimmed; so all are exactly if all are trimmed. An
entry that is not stays whatever is asked for but a reset. After a session that started without
settings all entries can be removed. -/
theorem removes_named_iff (settings : Settings) :
    (∃ disk p, load disk p = .ok settings) ∧
    (∀ e ∈ settings.criteria.keywords,
      settings.RemovesKeyword e (settings.removeKeyword e) ↔ trim e = e) ∧
    (∀ e ∈ settings.criteria.codes, settings.RemovesCode e (settings.removeCode e) ↔ trim e = e) ∧
    (settings.RemovesNamed ↔ settings.criteria.IsTrimmed) ∧
    (∀ request : SettingsRequest, request.reset = false →
      (∀ e ∈ settings.criteria.keywords, trim e ≠ e →
        e ∈ (request.apply settings).criteria.keywords) ∧
      ∀ e ∈ settings.criteria.codes, trim e ≠ e → e ∈ (request.apply settings).criteria.codes) ∧
    ∀ home start requests disk, Session home start requests disk →
      start.contains (settingsFile home) = false → load disk (settingsFile home) = .ok settings →
        settings.RemovesNamed := by
  refine ⟨settings.exists_load_eq, fun e he => removesKeyword_removeKeyword_iff he,
    fun e he => removesCode_removeCode_iff he, removesNamed_iff_isTrimmed, ?_, ?_⟩
  · intro request hreset
    exact ⟨fun e he hpadded => SettingsRequest.mem_keywords_apply_of_padded hreset he hpadded,
      fun e he hpadded => SettingsRequest.mem_codes_apply_of_padded hreset he hpadded⟩
  · intro home start requests disk hsession hnone hload
    exact removesNamed_iff_isTrimmed.2 (hsession.isTrimmed hnone hload)

/-- Settings with a keyword that has a space in front of it. -/
def paddedSettings : Settings := ⟨⟨.ofList [" bank", "risk"], .ofList ["RU"]⟩⟩

/-- A request to remove a padded keyword, by its name and by that without the space. -/
def removeRequest : SettingsRequest where
  addKeyword := []
  removeKeyword := [" bank", "bank"]
  addCode := []
  removeCode := []
  reset := false
  display := false

/-- Of settings with a padded keyword the others are removed, and that one stays. -/
theorem removes_named_risk :
    paddedSettings.RemovesKeyword "risk" (paddedSettings.removeKeyword "risk") ∧
      paddedSettings.RemovesCode "RU" (paddedSettings.removeCode "RU") ∧
      " bank" ∈ (removeRequest.apply paddedSettings).criteria.keywords := by
  obtain ⟨-, hkeyword, hcode, -, hstays, -⟩ := removes_named_iff paddedSettings
  exact ⟨(hkeyword "risk" (by decide)).2 (by decide), (hcode "RU" (by decide)).2 (by decide),
    (hstays removeRequest rfl).1 " bank" (by decide) (by decide)⟩

/-- A file of settings with a padded keyword. -/
def paddedDisk : Disk where
  nodes := [([Utf8.ofString "s"],
    .file (.ofString "\x7b\"classification\":\x7b\"highRiskKeywords\":[\" bank\"]\x7d\x7d"))]
  current := []

/-- A padded keyword of a file is not found by its name, and it stays. -/
theorem not_removesNamed_padded :
    ∃ settings, load paddedDisk rootFile = .ok settings ∧
      " bank" ∈ settings.criteria.keywords ∧
      settings.removeKeyword " bank" = (settings, false) ∧
      ¬settings.RemovesNamed := by
  have hload : load paddedDisk rootFile = .ok ⟨⟨.ofList [" bank"], .empty⟩⟩ := by decide +kernel
  refine ⟨_, hload, by decide, by decide, ?_⟩
  rw [removesNamed_iff_isTrimmed]
  intro htrimmed
  exact absurd (htrimmed.keywords " bank" (by decide)) (by decide)

end Settings

end Screening
