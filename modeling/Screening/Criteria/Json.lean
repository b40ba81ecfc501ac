/-
Criteria as JSON.

Criteria are an object of two lists of strings. Reading takes the members in any order, an absent
one as empty and unknown ones without a look at them; writing lists the entries in order.

* `Criteria.ofJson`: the criteria that a text holds.
* `Criteria.toJson`: the compact text of criteria.
-/
import Screening.Criteria
import Screening.Json.Reader
import Screening.Json.Tree

namespace Screening.Criteria

/-- The reader of a list of strings as a set. -/
def entriesReader : Json.Reader EntrySet :=
  (Json.Reader.list .string).map EntrySet.ofList

/-- The name of the keywords in an object of criteria. -/
def keywordsName : String := "highRiskKeywords"

/-- The name of the codes in an object of criteria. -/
def codesName : String := "approvedCodes"

/-- The keywords in an object of criteria. -/
def keywordsField : Json.Field Criteria where
  name := keywordsName
  reader := entriesReader.map fun entries criteria => { criteria with keywords := entries }

/-- The codes in an object of criteria. -/
def codesField : Json.Field Criteria where
  name := codesName
  reader := entriesReader.map fun entries criteria => { criteria with codes := entries }

/-- The reader of criteria. -/
def reader : Json.Reader Criteria :=
  .record "ClassificationConfig" [keywordsField, codesField] .empty

/-- The criteria that a text holds. -/
def ofJson (text : String) : Except Json.Error Criteria :=
  reader.parse text

/-- The object of criteria. -/
def tree (criteria : Criteria) : Json.Tree :=
  .object
    [(keywordsName, .ofStrings criteria.keywords.toList),
      (codesName, .ofStrings criteria.codes.toList)]

/-- The compact text of criteria. -/
def toJson (criteria : Criteria) : String :=
  criteria.tree.compact

end Screening.Criteria
