/-
The settings that stay from one run to the next.

The settings hold the criteria. Entries that are added or removed by hand are trimmed first, and a
blank one is never added. For one run the criteria may be extended by more entries, which obey the
same rule.

* `Settings.addKeyword`, `Settings.removeKeyword`, and the same for codes: changes by hand; each
  says whether it changed anything.
* `Criteria.extended`: the criteria of one run.
* `Settings.ofJson`, `Settings.toJson`: the settings as they are kept.
-/
import Screening.Criteria.Json

namespace Screening

/-- What stays from one run to the next. -/
structure Settings where
  criteria : Criteria
  deriving DecidableEq

namespace EntrySet

/-- The set with an entry added by hand, and whether it is new. The entry is trimmed, and a blank
one is left out. -/
def addTrimmed (entry : String) (set : EntrySet) : EntrySet × Bool :=
  let entry := Text.trim entry
  if entry = "" ∨ entry ∈ set then (set, false) else (set.insert entry, true)

/-- The set with an entry removed by hand, and whether it was there. The entry is trimmed. -/
def removeTrimmed (entry : String) (set : EntrySet) : EntrySet × Bool :=
  let entry := Text.trim entry
  (set.erase entry, decide (entry ∈ set))

end EntrySet

/-! ### Changes by hand -/

namespace Settings

/-- The settings before any change. -/
def initial : Settings := ⟨.empty⟩

/-- The settings with other keywords. -/
def setKeywords (settings : Settings) (keywords : EntrySet) : Settings :=
  ⟨{ settings.criteria with keywords }⟩

/-- The settings with other codes. -/
def setCodes (settings : Settings) (codes : EntrySet) : Settings :=
  ⟨{ settings.criteria with codes }⟩

/-- Adds a keyword, and says whether it is new. -/
def addKeyword (settings : Settings) (entry : String) : Settings × Bool :=
  (settings.criteria.keywords.addTrimmed entry).map settings.setKeywords id

/-- Removes a keyword, and says whether it was there. -/
def removeKeyword (settings : Settings) (entry : String) : Settings × Bool :=
  (settings.criteria.keywords.removeTrimmed entry).map settings.setKeywords id

/-- Adds a code, and says whether it is new. -/
def addCode (settings : Settings) (entry : String) : Settings × Bool :=
  (settings.criteria.codes.addTrimmed entry).map settings.setCodes id

/-- Removes a code, and says whether it was there. -/
def removeCode (settings : Settings) (entry : String) : Settings × Bool :=
  (settings.criteria.codes.removeTrimmed entry).map settings.setCodes id

end Settings

/-! ### Entries for one run -/

/-- The entries of a list as they are added by hand: trimmed, without blank ones. -/
def trimmedEntries (entries : List String) : List String :=
  (entries.map Text.trim).filter (· ≠ "")

/-- The criteria with more keywords and codes for one run. -/
def Criteria.extended (criteria : Criteria) (keywords codes : List String) : Criteria :=
  criteria.merge
    ((Criteria.empty.withKeywords (trimmedEntries keywords)).withCodes (trimmedEntries codes))

/-! ### The kept form -/

namespace Settings

/-- The name of the criteria in an object of settings. -/
def criteriaName : String := "classification"

/-- The criteria in an object of settings. -/
def criteriaField : Json.Field Settings where
  name := criteriaName
  reader := Criteria.reader.map fun criteria settings => { settings with criteria }

/-- The reader of settings. -/
def reader : Json.Reader Settings :=
  .record "Settings" [criteriaField] .initial

/-- The settings that a text holds. -/
def ofJson (text : String) : Except Json.Error Settings :=
  reader.parse text

/-- The object of settings. -/
def tree (settings : Settings) : Json.Tree :=
  .object [(criteriaName, settings.criteria.tree)]

/-- The indented text of settings. -/
def toJson (settings : Settings) : String :=
  settings.tree.indented

end Settings

end Screening
