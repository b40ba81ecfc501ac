/-
The status of a customer.

There are seven statuses, from the most to the least severe. The first rule that applies decides: a
keyword in the name, an approved code, a marker in the search texts, no city and no code, and
otherwise the last status.

* `Subject.status`: the status of a customer under some criteria.
* `Status.all`: the statuses in order.
-/
import Screening.Criteria

namespace Screening

/-! ### The statuses -/

/-- The status of a customer. -/
inductive Status where
  | highRisk
  | approved
  | zkwd
  | zemb
  | zkwdAndZemb
  | noAddress
  | spl
  deriving DecidableEq

namespace Status

/-- All statuses, the most severe first. -/
def all : List Status :=
  [highRisk, approved, zkwd, zemb, zkwdAndZemb, noAddress, spl]

/-- The place of a status in the order. -/
def rank : Status → Nat
  | highRisk => 0
  | approved => 1
  | zkwd => 2
  | zemb => 3
  | zkwdAndZemb => 4
  | noAddress => 5
  | spl => 6

instance : LE Status := ⟨fun s t => s.rank ≤ t.rank⟩

instance (s t : Status) : Decidable (s ≤ t) :=
  inferInstanceAs (Decidable (s.rank ≤ t.rank))

/-- The more severe of two statuses. -/
instance : Min Status := minOfLe

/-- The text of a status in a report. -/
def label : Status → String
  | highRisk => "High Risk"
  | approved => "APRV"
  | zkwd => "ZKWD"
  | zemb => "ZEMB"
  | zkwdAndZemb => "ZKWD & ZEMB"
  | noAddress => "No add"
  | spl => "SPL"

/-- Every status is listed. -/
theorem mem_all (s : Status) : s ∈ all := by
  cases s <;> decide

/-- The status that the markers in the search texts give, if there is one. -/
def ofMarkers? : (hasZkwd hasZemb : Bool) → Option Status
  | true, true => some zkwdAndZemb
  | true, false => some zkwd
  | false, true => some zemb
  | false, false => none

end Status

/-! ### The rules -/

/-- What is known of a customer. -/
structure Subject where
  customer : String
  ctr : String
  city : String
  textA : String
  textB : String
  deriving DecidableEq

namespace Subject

/-- Both search texts in full uppercase, a space between them. -/
def folded (subject : Subject) : String :=
  Text.fold (subject.textA ++ " " ++ subject.textB)

/-- Whether a marker, which is written in uppercase, occurs in a search text, case ignored. -/
def hasMarker (subject : Subject) (marker : String) : Bool :=
  Text.occurs marker subject.folded

/-- The status that the markers in the search texts give. -/
def markerStatus? (subject : Subject) : Option Status :=
  Status.ofMarkers? (subject.hasMarker "ZKWD") (subject.hasMarker "ZEMB")

/-- The status under some criteria: that of the first rule that applies. -/
def status (subject : Subject) (criteria : Criteria) : Status :=
  if criteria.isHighRisk subject.customer then .highRisk
  else if criteria.isApproved subject.ctr then .approved
  else
    match subject.markerStatus? with
    | some status => status
    | none =>
      if Text.isBlank subject.city && Text.isBlank subject.ctr then .noAddress else .spl

end Subject

end Screening
