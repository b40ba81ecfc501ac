/-
Settings that were saved are loaded.

The text of settings spells them for their reader, a set of entries being listed without repeats,
and a file holds the text that was written. Whether settings can be saved depends on the directories
along the path only, and where it was possible it stays so.

* `Criteria.ofJson_toJson`, `Settings.ofJson_toJson`: the texts of criteria and settings are read
  back.
* `Settings.load_save`: saved settings are loaded.
* `Settings.Savable`: settings can be saved to a file, and it does not matter which.
* `Settings.save_then_load`: whatever settings hold, they are kept where a file can be put.
-/
import Screening.Proofs.Encoding
import Screening.Proofs.Files
import Screening.Proofs.Json.Spelling
import Screening.Settings.Stored

namespace Screening

/-- A set is the set of its entries. -/
lemma EntrySet.ofList_toList (set : EntrySet) : EntrySet.ofList set.toList = set :=
  EntrySet.ext fun _ => EntrySet.mem_ofList

/-! ### Criteria and settings -/

open Json (Layout)

variable {layout : Layout}

namespace Criteria

/-- A written list of entries spells the set of them. -/
lemma spells_entries (hl : layout.Blank) (depth : ℕ) (set : EntrySet) :
    entriesReader.Spells set ((Json.Tree.ofStrings set.toList).write layout depth) := by
  have h := (Json.spells_ofStrings hl depth set.toList).map EntrySet.ofList
  rwa [EntrySet.ofList_toList] at h

/-- Written criteria spell the criteria. -/
lemma spells_tree (hl : layout.Blank) (depth : ℕ) (criteria : Criteria) :
    reader.Spells criteria (criteria.tree.write layout depth) := by
  have hmembers : Json.Members [keywordsField, codesField] []
      [(keywordsField, fun c => { c with keywords := criteria.keywords }),
        (codesField, fun c => { c with codes := criteria.codes })]
      (Json.Tree.writeMembers layout (depth + 1)
        [(keywordsName, .ofStrings criteria.keywords.toList),
          (codesName, .ofStrings criteria.codes.toList)]) := by
    refine .of_nodup (by decide) ?_ ?_ ?_
    · intro member hmember
      rcases List.mem_pair.1 hmember with rfl | rfl
      · exact List.mem_cons_self
      · exact List.mem_cons_of_mem _ List.mem_cons_self
    · show [keywordsName, codesName].Nodup
      decide
    · refine .cons ?_ (.cons ?_ .nil)
      · exact Json.spells_member hl _ _ (spells_entries hl _ criteria.keywords)
      · exact Json.spells_member hl _ _ (spells_entries hl _ criteria.codes)
  exact Json.spells_record hl depth _ .empty hmembers

/-- **The compact text of criteria is read back.** -/
theorem ofJson_toJson (criteria : Criteria) : ofJson criteria.toJson = .ok criteria :=
  (spells_tree Json.Layout.blank_compact 0 criteria).parse_eq

end Criteria

namespace Settings

/-- Written settings spell the settings. -/
lemma spells_tree (hl : layout.Blank) (depth : ℕ) (settings : Settings) :
    reader.Spells settings (settings.tree.write layout depth) := by
  have hmembers : Json.Members [criteriaField] []
      [(criteriaField, fun s => { s with criteria := settings.criteria })]
      (Json.Tree.writeMembers layout (depth + 1) [(criteriaName, settings.criteria.tree)]) := by
    refine .of_nodup (by decide) ?_ ?_ ?_
    · intro member hmember
      rw [List.mem_singleton.1 hmember]
      exact List.mem_cons_self
    · show [criteriaName].Nodup
      decide
    · refine .cons ?_ .nil
      exact Json.spells_member hl _ _ (Criteria.spells_tree hl _ settings.criteria)
  exact Json.spells_record hl depth _ .initial hmembers

/-- **The indented text of settings is read back.** -/
theorem ofJson_toJson (settings : Settings) : ofJson settings.toJson = .ok settings :=
  (spells_tree Json.Layout.blank_indented 0 settings).parse_eq

end Settings

/-! ### Files -/

namespace Disk

variable {disk disk' : Disk} {p : Path}

/-- A written file is there. -/
lemma contains_write {content : Content} (h : disk.write p content = .ok disk') :
    disk'.contains p = true :=
  contains_of_read (read_write h)

/-- The text of a written file is the one that was written. -/
lemma readText_write {s : String} (h : disk.write p (.ofString s) = .ok disk') :
    disk'.readText p = .ok s := by
  rw [readText, read_write h, Content.ofString]
  dsimp only
  rw [Utf8.decode?_ofString]
  show Except.ok (String.ofList s.toList) = _
  rw [String.ofList_toList]

/-- A path leads to where a file can be put once the directory that it lies in was made. -/
def Receives (disk : Disk) (p : Path) : Prop :=
  ∃ made place, p.parent?.elim (.ok disk) disk.makeDirectories = .ok made ∧ made.Writable p place

end Disk

namespace Settings

variable {disk disk' : Disk} {p : Path}

/-- Settings are saved by making the directory of the file and writing their text. -/
lemma save_of_write {settings : Settings} {made : Disk}
    (hmade : p.parent?.elim (.ok disk) disk.makeDirectories = .ok made)
    (hwrite : made.write p (.ofString settings.toJson) = .ok disk') :
    settings.save disk p = .ok disk' := by
  rw [save, hmade]
  show (made.write p (.ofString settings.toJson)).mapError _ = _
  rw [hwrite]
  rfl

/-- Saving fails with a fault of the files, or it makes the directory and writes the text. -/
lemma save_cases (settings : Settings) (disk : Disk) (p : Path) :
    (∃ fault, settings.save disk p = .error (.io fault)) ∨
      ∃ made disk', p.parent?.elim (.ok disk) disk.makeDirectories = .ok made ∧
        made.write p (.ofString settings.toJson) = .ok disk' ∧
        settings.save disk p = .ok disk' := by
  cases hmade : p.parent?.elim (.ok disk) disk.makeDirectories with
  | error fault =>
    refine .inl ⟨fault, ?_⟩
    rw [save, hmade]
    rfl
  | ok made =>
    cases hwrite : made.write p (.ofString settings.toJson) with
    | error fault =>
      refine .inl ⟨fault, ?_⟩
      rw [save, hmade]
      show (made.write p (.ofString settings.toJson)).mapError _ = _
      rw [hwrite]
      rfl
    | ok disk' => exact .inr ⟨made, disk', rfl, hwrite, save_of_write hmade hwrite⟩

/-- Saved settings were written where their directory was made. -/
lemma exists_of_save {settings : Settings} (h : settings.save disk p = .ok disk') :
    ∃ made, p.parent?.elim (.ok disk) disk.makeDirectories = .ok made ∧
      made.write p (.ofString settings.toJson) = .ok disk' := by
  rcases save_cases settings disk p with ⟨fault, hfault⟩ | ⟨made, saved, hmade, hwrite, hsave⟩
  · rw [hfault] at h
    cases h
  · rw [hsave] at h
    cases h
    exact ⟨made, hmade, hwrite⟩

/-- What keeps settings from being saved is a fault of the files. -/
lemma save_error {settings : Settings} {e : Error} (h : settings.save disk p = .error e) :
    ∃ fault, e = .io fault := by
  rcases save_cases settings disk p with ⟨fault, hfault⟩ | ⟨made, saved, hmade, hwrite, hsave⟩
  · rw [hfault] at h
    cases h
    exact ⟨fault, rfl⟩
  · rw [hsave] at h
    cases h

/-- Where there is no file the settings are the initial ones. -/
lemma load_of_not_contains (h : disk.contains p = false) : load disk p = .ok .initial := by
  rw [load, h]
  rfl

/-- **Saved settings are loaded.** -/
theorem load_save {settings : Settings} (h : settings.save disk p = .ok disk') :
    load disk' p = .ok settings := by
  obtain ⟨made, -, hwrite⟩ := exists_of_save h
  rw [load, if_pos (Disk.contains_write hwrite), Disk.readText_write hwrite]
  simp only [Except.mapError, bind, Except.bind, ofJson_toJson]

/-- Settings can be saved to a file, whatever they hold. -/
def Savable (disk : Disk) (p : Path) : Prop :=
  ∀ settings : Settings, ∃ disk', settings.save disk p = .ok disk'

/-- Where some settings can be saved all can be. -/
lemma savable_of_save {settings : Settings} (h : settings.save disk p = .ok disk') :
    Savable disk p := by
  intro other
  obtain ⟨made, hmade, hwrite⟩ := exists_of_save h
  obtain ⟨written, hother⟩ := Disk.write_other hwrite (.ofString other.toJson)
  exact ⟨written, save_of_write hmade hother⟩

/-- Where settings were saved they can be saved again. -/
lemma savable_save {settings : Settings} (h : settings.save disk p = .ok disk') :
    Savable disk' p := by
  intro other
  obtain ⟨made, hmade, hwrite⟩ := exists_of_save h
  obtain ⟨written, hother⟩ := Disk.write_again hwrite (.ofString other.toJson)
  refine ⟨written, save_of_write ?_ hother⟩
  cases hparent : p.parent? with
  | none => rfl
  | some directory =>
    rw [hparent] at hmade
    exact Disk.makeDirectories_again hmade (Disk.growsTo_write hwrite)

/-! ### Whatever the settings hold -/

/-- Settings can be saved exactly where a file can be put. -/
lemma exists_save_iff (settings : Settings) :
    (∃ disk', settings.save disk p = .ok disk') ↔ disk.Receives p := by
  constructor
  · rintro ⟨disk', hsave⟩
    obtain ⟨made, hmade, hwrite⟩ := exists_of_save hsave
    obtain ⟨place, hplace, -⟩ := Disk.exists_writable hwrite
    exact ⟨made, place, hmade, hplace⟩
  · rintro ⟨made, place, hmade, hplace⟩
    exact ⟨_, save_of_write hmade (hplace.write_eq _)⟩

/-- **Settings are kept.** Whatever settings hold, they can be saved exactly where a file can be
put, and loading the file gives them back; and the compact text of any criteria is read as the
criteria. -/
theorem save_then_load (settings : Settings) (criteria : Criteria) :
    (∀ disk p, (∃ disk', settings.save disk p = .ok disk') ↔ Disk.Receives disk p) ∧
    (∀ disk p disk', settings.save disk p = .ok disk' → load disk' p = .ok settings) ∧
    Criteria.ofJson criteria.toJson = .ok criteria :=
  ⟨fun _ _ => settings.exists_save_iff, fun _ _ _ hsave => load_save hsave,
    criteria.ofJson_toJson⟩

/-- The root directory, and nothing in it. -/
def emptyRoot : Disk := ⟨[], []⟩

/-- Entries with everything that a JSON string escapes, and some that it does not. -/
def oddEntries : EntrySet :=
  .ofList ["", " \"\\/", "\x00\x08\t\n\x0c\r\x1f\x7f", "\u2028ß𝄞"]

/-- Odd entries are kept. -/
theorem save_then_load_odd :
    ∃ disk', Settings.save ⟨oddEntries, oddEntries⟩ emptyRoot (.ofString "/a/b.json") = .ok disk' ∧
      load disk' (.ofString "/a/b.json") = .ok ⟨oddEntries, oddEntries⟩ ∧
      Criteria.ofJson (Criteria.toJson ⟨oddEntries, oddEntries⟩) = .ok ⟨oddEntries, oddEntries⟩ := by
  obtain ⟨hsave, hload, hparse⟩ :=
    save_then_load ⟨oddEntries, oddEntries⟩ ⟨oddEntries, oddEntries⟩
  have hreceives : emptyRoot.Receives (.ofString "/a/b.json") := by
    refine ⟨emptyRoot.set [Utf8.ofString "a"] .directory,
      [Utf8.ofString "a", Utf8.ofString "b.json"], by decide, ?_⟩
    exact ⟨by decide, by decide, ⟨[Utf8.ofString "a"], by decide, by decide⟩, by decide⟩
  obtain ⟨disk', hdisk'⟩ := (hsave _ _).2 hreceives
  exact ⟨disk', hdisk', hload _ _ _ hdisk', hparse⟩

end Settings

end Screening
