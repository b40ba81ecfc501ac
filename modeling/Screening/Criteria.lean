/-
What a customer is screened against.

The criteria hold keywords, which mark a customer whose name contains one, and codes, which clear a
customer whose code is one. Both are compared with case ignored, and a blank entry matches nothing.

* `Criteria.isHighRisk`, `Criteria.isApproved`: the two tests.
* `Criteria.merge`: criteria that match what either of two does.
-/
import Screening.EntrySet
import Screening.Text.Fold

namespace Screening

/-- The keywords and codes that customers are screened against. -/
structure Criteria where
  keywords : EntrySet
  codes : EntrySet
  deriving DecidableEq

namespace Criteria

/-- The criteria that match no customer. -/
def empty : Criteria := ⟨.empty, .empty⟩

/-! ### Matching -/

/-- Whether a customer's name contains a keyword. -/
def isHighRisk (criteria : Criteria) (customer : String) : Bool :=
  criteria.keywords.toList.any (Text.containsFolded customer)

/-- Whether a code is an approved one. -/
def isApproved (criteria : Criteria) (code : String) : Bool :=
  criteria.codes.toList.any (Text.equalsFolded code)

theorem isHighRisk_iff {criteria : Criteria} {customer : String} :
    criteria.isHighRisk customer = true ↔
      ∃ keyword ∈ criteria.keywords, Text.containsFolded customer keyword = true :=
  List.any_eq_true

theorem isApproved_iff {criteria : Criteria} {code : String} :
    criteria.isApproved code = true ↔
      ∃ entry ∈ criteria.codes, Text.equalsFolded code entry = true :=
  List.any_eq_true

/-! ### Building -/

/-- The criteria with more keywords. -/
def withKeywords (entries : List String) (criteria : Criteria) : Criteria :=
  { criteria with keywords := criteria.keywords.insertAll entries }

/-- The criteria with more codes. -/
def withCodes (entries : List String) (criteria : Criteria) : Criteria :=
  { criteria with codes := criteria.codes.insertAll entries }

/-- The entries of two criteria together. -/
def merge (criteria other : Criteria) : Criteria where
  keywords := criteria.keywords.union other.keywords
  codes := criteria.codes.union other.codes

/-- A name contains a keyword of two criteria together iff it contains one of either. -/
theorem isHighRisk_merge (c d : Criteria) (customer : String) :
    (c.merge d).isHighRisk customer = (c.isHighRisk customer || d.isHighRisk customer) := by
  rw [Bool.eq_iff_iff, Bool.or_eq_true, isHighRisk_iff, isHighRisk_iff, isHighRisk_iff]
  simp only [merge, EntrySet.mem_union, or_and_right, exists_or]

/-- A code is approved by two criteria together iff either approves it. -/
theorem isApproved_merge (c d : Criteria) (code : String) :
    (c.merge d).isApproved code = (c.isApproved code || d.isApproved code) := by
  rw [Bool.eq_iff_iff, Bool.or_eq_true, isApproved_iff, isApproved_iff, isApproved_iff]
  simp only [merge, EntrySet.mem_union, or_and_right, exists_or]

end Criteria

end Screening
