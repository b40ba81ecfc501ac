/-
Files of settings that were torn.

A write that is broken off leaves the first bytes of what was to be written. Those of a text are the
first characters of it, or no text at all; and the text of settings ends with the brace that it
starts with, so no beginning of it is read as settings. A torn file is never taken for a smaller one.

* `Criteria.closed_reader`, `Settings.closed_reader`: the readers see no further than their braces.
* `Settings.not_holds_torn`: what is left of a text of settings holds none.
* `Settings.load_torn`: loading a torn file fails.
-/
import Screening.Proofs.Json.Closed
import Screening.Proofs.Removal
import Screening.Proofs.Reset

namespace Screening

open Json (Reader closed_string)

/-! ### The readers -/

/-- The reader of criteria is closed. -/
lemma Criteria.closed_reader : Criteria.reader.Closed := by
  have hentries : Criteria.entriesReader.Closed := closed_string.list.map _
  refine Reader.Closed.record ?_ _ _
  intro field hfield
  rcases List.mem_pair.1 hfield with rfl | rfl
  · exact hentries.map fun entries (criteria : Criteria) => { criteria with keywords := entries }
  · exact hentries.map fun entries (criteria : Criteria) => { criteria with codes := entries }

namespace Settings

/-- The reader of settings is closed. -/
lemma closed_reader : reader.Closed := by
  refine Reader.Closed.record ?_ _ _
  intro field hfield
  rw [List.mem_singleton.1 hfield]
  exact Criteria.closed_reader.map fun criteria (settings : Settings) => { settings with criteria }

/-! ### Torn files -/

/-- No settings are read from a beginning of their text. -/
lemma exists_ofJson_error_of_prefix (settings : Settings) {torn : List Char}
    (hpart : torn <+: settings.toJson.toList) (hproper : torn ≠ settings.toJson.toList) :
    ∃ e, ofJson (String.ofList torn) = .error e := by
  have hread : reader.read settings.toJson.toList = .ok (settings, []) := by
    have h := (spells_tree Json.Layout.blank_indented 0 settings).read_eq []
    rw [List.append_nil] at h
    rwa [toJson, Json.Tree.indented, String.toList_ofList]
  obtain ⟨fault, hfault⟩ := closed_reader.exists_error_of_prefix hread hpart hproper
  refine ⟨fault.locate torn, ?_⟩
  rw [ofJson, Reader.parse, String.toList_ofList, hfault]
  rfl

/-- What is left of a text of settings holds none. -/
lemma not_holds_torn {settings : Settings} {torn : List UInt8}
    (hpart : torn <+: Utf8.ofString settings.toJson)
    (hproper : torn ≠ Utf8.ofString settings.toJson) (other : Settings) :
    ¬(Content.bytes torn).Holds other := by
  rintro ⟨text, htext, hother⟩
  obtain ⟨cs, hcs, rfl⟩ := Option.map_eq_some_iff.1 htext
  obtain ⟨hchars, hencode⟩ := Utf8.decode?_of_prefix hpart hcs
  have hne : cs ≠ settings.toJson.toList := by
    rintro rfl
    exact hproper hencode.symm
  obtain ⟨e, he⟩ := settings.exists_ofJson_error_of_prefix hchars hne
  rw [he] at hother
  cases hother

/-- **Torn files of settings.** What is saved is the text of the settings. Where a file holds some of
its first bytes, but not all of it, loading fails: they are no text, or no settings. -/
theorem load_torn (settings : Settings) :
    (∀ disk p disk', settings.save disk p = .ok disk' →
      disk'.read p = .ok (.bytes (Utf8.ofString settings.toJson))) ∧
    ∀ torn, torn <+: Utf8.ofString settings.toJson → torn ≠ Utf8.ofString settings.toJson →
      ∀ disk p, Disk.read disk p = .ok (.bytes torn) →
        load disk p = .error (.io .notText) ∨ ∃ e, load disk p = .error (.settings e) := by
  constructor
  · intro disk p disk' hsave
    obtain ⟨made, -, hwrite⟩ := exists_of_save hsave
    exact Disk.read_write hwrite
  · intro torn hpart hproper disk p hread
    rcases load_cases hread with ⟨other, hholds, -⟩ | ⟨-, hload⟩
    · exact absurd hholds (not_holds_torn hpart hproper other)
    · exact hload

/-- Settings with a keyword of two bytes. -/
def sharpSettings : Settings := ⟨⟨.ofList ["ß"], .empty⟩⟩

/-- Files of which one, below the root, holds some bytes. -/
def rootWith (bytes : List UInt8) : Disk where
  nodes := [([Utf8.ofString "s"], .file (.bytes bytes))]
  current := []

/-- Settings are not loaded if the last brace is lost, nor if the file ends inside of a character. -/
theorem load_torn_sharp :
    let bytes := Utf8.ofString sharpSettings.toJson
    (∃ disk', sharpSettings.save emptyRoot rootFile = .ok disk' ∧
      disk'.read rootFile = .ok (.bytes bytes)) ∧
    (load (rootWith bytes.dropLast) rootFile = .error (.io .notText) ∨
      ∃ e, load (rootWith bytes.dropLast) rootFile = .error (.settings e)) ∧
    (load (rootWith (bytes.take 58)) rootFile = .error (.io .notText) ∨
      ∃ e, load (rootWith (bytes.take 58)) rootFile = .error (.settings e)) ∧
    Utf8.decode? (bytes.take 58) = none := by
  intro bytes
  obtain ⟨hsaved, htorn⟩ := load_torn sharpSettings
  obtain ⟨disk', hsave⟩ := sharpSettings.exists_save_iff.2 receives_emptyRoot
  have hdrop : bytes.dropLast ≠ bytes := by decide +kernel
  have htake : bytes.take 58 ≠ bytes := by decide +kernel
  exact ⟨⟨disk', hsave, hsaved _ _ _ hsave⟩,
    htorn _ (List.dropLast_prefix bytes) hdrop _ _ rfl,
    htorn _ (List.take_prefix 58 bytes) htake _ _ rfl, by decide +kernel⟩

end Settings

end Screening
