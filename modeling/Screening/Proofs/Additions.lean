/-
Entries given for one run, and the same entries added by hand.

Entries for one run are trimmed and sifted as a list and then merged into the criteria; entries
added by hand go one by one into the set that is there. The criteria come out the same, whatever the
set held before and in whatever order and however often the entries are added.

* `Addition`, `Settings.addAll`: entries added by hand, one after the other.
* `Settings.asSet_keywords_addAll`, `Settings.asSet_codes_addAll`: what they add up to.
* `Settings.resolve_given`: entries given for one run are entries added before it.
-/
import Screening.Proofs.Changes
import Screening.Proofs.Reset

namespace Screening

/-! ### Additions by hand -/

/-- An entry to be added by hand. -/
inductive Addition where
  | keyword (entry : String)
  | code (entry : String)

namespace Addition

/-- The keywords among additions. -/
def keywords : List Addition → List String
  | [] => []
  | keyword entry :: additions => entry :: keywords additions
  | code _ :: additions => keywords additions

/-- The codes among additions. -/
def codes : List Addition → List String
  | [] => []
  | keyword _ :: additions => codes additions
  | code entry :: additions => entry :: codes additions

/-- Additions of the given keywords and codes and of no others, in any order and any number of
times. -/
structure Give (additions : List Addition) (givenKeywords givenCodes : List String) : Prop where
  mem_keywords : ∀ entry, entry ∈ keywords additions ↔ entry ∈ givenKeywords
  mem_codes : ∀ entry, entry ∈ codes additions ↔ entry ∈ givenCodes

end Addition

/-- Lists of the same entries have the same trimmed ones. -/
lemma trimmedSet_congr {l m : List String} (h : ∀ entry, entry ∈ l ↔ entry ∈ m) :
    trimmedSet l = trimmedSet m :=
  Set.ext fun _ => exists_congr fun entry => and_congr_left fun _ => h entry

namespace Settings

/-- The settings with an entry added by hand. -/
def add (settings : Settings) : Addition → Settings
  | .keyword entry => (settings.addKeyword entry).1
  | .code entry => (settings.addCode entry).1

/-- The settings with entries added by hand, one after the other. -/
def addAll (settings : Settings) (additions : List Addition) : Settings :=
  additions.foldl add settings

/-- What additions make of the keywords does not depend on the codes, and the other way around. -/
lemma addAll_eq (additions : List Addition) (settings : Settings) :
    settings.addAll additions
      = ⟨(Addition.keywords additions).foldl (fun set e => (set.addTrimmed e).1)
            settings.criteria.keywords,
          (Addition.codes additions).foldl (fun set e => (set.addTrimmed e).1)
            settings.criteria.codes⟩ := by
  induction additions generalizing settings with
  | nil => rfl
  | cons addition additions ih =>
    rw [addAll, List.foldl_cons]
    refine (ih (settings.add addition)).trans ?_
    cases addition with
    | keyword entry =>
      rw [Addition.keywords, Addition.codes, List.foldl_cons, add, addKeyword, Prod.map_fst,
        setKeywords]
    | code entry =>
      rw [Addition.keywords, Addition.codes, List.foldl_cons, add, addCode, Prod.map_fst, setCodes]

/-- Additions add up to the keywords among them that are not blank, trimmed. -/
theorem asSet_keywords_addAll (additions : List Addition) (settings : Settings) :
    (settings.addAll additions).criteria.keywords.asSet
      = settings.criteria.keywords.asSet ∪ (trimmedSet (Addition.keywords additions) \ {""}) := by
  rw [addAll_eq]
  exact EntrySet.asSet_foldl_addTrimmed _ _

/-- Additions add up to the codes among them that are not blank, trimmed. -/
theorem asSet_codes_addAll (additions : List Addition) (settings : Settings) :
    (settings.addAll additions).criteria.codes.asSet
      = settings.criteria.codes.asSet ∪ (trimmedSet (Addition.codes additions) \ {""}) := by
  rw [addAll_eq]
  exact EntrySet.asSet_foldl_addTrimmed _ _

end Settings

/-! ### Criteria of a run -/

namespace Criteria

/-- Criteria with the same entries are equal. -/
lemma eq_of_asSet {criteria other : Criteria}
    (hkeywords : criteria.keywords.asSet = other.keywords.asSet)
    (hcodes : criteria.codes.asSet = other.codes.asSet) : criteria = other := by
  cases criteria
  cases other
  rw [mk.injEq]
  exact ⟨EntrySet.ext (Set.ext_iff.1 hkeywords), EntrySet.ext (Set.ext_iff.1 hcodes)⟩

/-- Criteria extended by nothing stay as they are. -/
lemma extended_nil (criteria : Criteria) : criteria.extended [] [] = criteria := by
  refine eq_of_asSet ?_ ?_
  · rw [asSet_keywords_extended, trimmedSet_nil, Set.empty_sdiff, Set.union_empty]
  · rw [asSet_codes_extended, trimmedSet_nil, Set.empty_sdiff, Set.union_empty]

/-- Criteria extended by entries are those of settings to which the entries were added. -/
lemma extended_eq_addAll {additions : List Addition} {keywords codes : List String}
    (h : Addition.Give additions keywords codes) (settings : Settings) :
    settings.criteria.extended keywords codes = (settings.addAll additions).criteria := by
  refine eq_of_asSet ?_ ?_
  · rw [asSet_keywords_extended, Settings.asSet_keywords_addAll, trimmedSet_congr h.mem_keywords]
  · rw [asSet_codes_extended, Settings.asSet_codes_addAll, trimmedSet_congr h.mem_codes]

end Criteria

/-- A file holds criteria if its text is one of them. -/
def Content.HoldsCriteria (content : Content) (criteria : Criteria) : Prop :=
  ∃ text, content.text? = some text ∧ Criteria.ofJson text = .ok criteria

/-- The criteria that a file holds are loaded. -/
lemma Criteria.load_of_holds {disk : Disk} {p : Path} {content : Content} {criteria : Criteria}
    (hread : disk.read p = .ok content) (h : content.HoldsCriteria criteria) :
    load disk p = .ok criteria := by
  obtain ⟨text, htext, hcriteria⟩ := h
  rw [load, if_pos (Disk.contains_of_read hread), Disk.readText_of_read hread, htext]
  show (ofJson text).mapError _ = _
  rw [hcriteria]
  rfl

namespace Settings

/-- A file in place of the settings counts as settings with its criteria. -/
lemma resolve_of_holds {disk : Disk} {p : Path} {content : Content} {criteria : Criteria}
    (hread : disk.read p = .ok content) (h : content.HoldsCriteria criteria) (settings : Settings)
    (keywords codes : List String) :
    settings.resolve disk (some p) keywords codes
      = resolve ⟨criteria⟩ disk none keywords codes := by
  show (Criteria.load disk p).map _ = _
  rw [Criteria.load_of_holds hread h]
  rfl

/-- **Entries for one run.** Entries given for one run make the criteria that the same entries make
when they are added to the settings by hand before, in any order and any number of times; and a file
given in place of the settings makes those of settings that hold what it does. -/
theorem resolve_given {additions : List Addition} {keywords codes : List String}
    (h : Addition.Give additions keywords codes) (settings : Settings) (disk : Disk) :
    (∃ criteria, settings.resolve disk none keywords codes = .ok criteria ∧
      (settings.addAll additions).resolve disk none [] [] = .ok criteria) ∧
    ∀ p content held, disk.read p = .ok content → content.HoldsCriteria held →
      ∃ criteria, settings.resolve disk (some p) keywords codes = .ok criteria ∧
        resolve ⟨held⟩ disk none keywords codes = .ok criteria ∧
        (addAll ⟨held⟩ additions).resolve disk none [] [] = .ok criteria := by
  have hgiven : ∀ settings : Settings, ∃ criteria,
      settings.resolve disk none keywords codes = .ok criteria ∧
        (settings.addAll additions).resolve disk none [] [] = .ok criteria := by
    intro settings
    refine ⟨settings.criteria.extended keywords codes, rfl, ?_⟩
    calc (settings.addAll additions).resolve disk none [] []
        = .ok ((settings.addAll additions).criteria.extended [] []) := rfl
      _ = .ok (settings.addAll additions).criteria := by rw [Criteria.extended_nil]
      _ = .ok (settings.criteria.extended keywords codes) := by
          rw [Criteria.extended_eq_addAll h]
  refine ⟨hgiven settings, ?_⟩
  intro p content held hread hheld
  obtain ⟨criteria, hresolve, hadded⟩ := hgiven ⟨held⟩
  exact ⟨criteria, (resolve_of_holds hread hheld settings keywords codes).trans hresolve, hresolve,
    hadded⟩

/-- Entries with blanks around them and twice, over stored ones that are not trimmed, and a file
with other criteria in their place. -/
theorem resolve_given_padded :
    let settings : Settings := ⟨⟨.ofList [" a ", "b"], .ofList ["\u3000"]⟩⟩
    let held : Criteria := ⟨.ofList ["x"], .empty⟩
    let disk := homeWith (.ofString held.toJson)
    let keywords := ["  a", "", "b", "x ", "x "]
    let codes := [" RU\n", "\t"]
    let additions : List Addition :=
      [.code "\t", .keyword "x ", .keyword "b", .code " RU\n", .keyword "", .code " RU\n",
        .keyword "  a"]
    Addition.Give additions keywords codes ∧
      settings.resolve disk none keywords codes
        = .ok ⟨.ofList [" a ", "a", "b", "x"], .ofList ["RU", "\u3000"]⟩ ∧
      (settings.addAll additions).resolve disk none [] []
        = .ok ⟨.ofList [" a ", "a", "b", "x"], .ofList ["RU", "\u3000"]⟩ ∧
      settings.resolve disk (some (settingsFile Session.someHome)) keywords codes
        = .ok ⟨.ofList ["a", "b", "x"], .ofList ["RU"]⟩ ∧
      (addAll ⟨held⟩ additions).resolve disk none [] []
        = .ok ⟨.ofList ["a", "b", "x"], .ofList ["RU"]⟩ := by
  intro settings held disk keywords codes additions
  have hgive : Addition.Give additions keywords codes := by
    refine ⟨fun entry => ?_, fun entry => ?_⟩
    · simp only [additions, keywords, Addition.keywords, List.mem_cons, List.not_mem_nil]
      tauto
    · simp only [additions, codes, Addition.codes, List.mem_cons, List.not_mem_nil]
      tauto
  obtain ⟨⟨criteria, hresolve, hadded⟩, hfile⟩ := resolve_given hgive settings disk
  obtain ⟨criteria', hresolve', -, hadded'⟩ := hfile _ _ held (read_homeWith _)
    ⟨held.toJson, Content.text?_ofString _, held.ofJson_toJson⟩
  have hcriteria : settings.resolve disk none keywords codes
      = .ok ⟨.ofList [" a ", "a", "b", "x"], .ofList ["RU", "\u3000"]⟩ := by decide +kernel
  have hcriteria' : (addAll ⟨held⟩ additions).resolve disk none [] []
      = .ok ⟨.ofList ["a", "b", "x"], .ofList ["RU"]⟩ := by decide +kernel
  cases hresolve.symm.trans hcriteria
  cases hadded'.symm.trans hcriteria'
  exact ⟨hgive, hresolve, hadded, hresolve', hadded'⟩

end Settings

end Screening
