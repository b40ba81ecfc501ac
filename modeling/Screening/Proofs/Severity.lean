/-
Statuses under merged criteria.

The entries of the criteria decide the first two rules only. Where neither applies the status is the
one under no criteria at all, and that is less severe than both; so each of several criteria can
only make a status more severe, and merged they give the most severe of their statuses.

* `Subject.status_eq_ite`: the two rules, and the status under no criteria.
* `Subject.status_merge`, `Subject.status_foldl_merge`: two criteria, and any number of them.
* `Subject.merging_takes_the_most_severe`: merging takes the minimum, in any order, and what it
  changes is changed to one of the first two statuses.
-/
import Mathlib.Order.Defs.LinearOrder
import Screening.Status

namespace Screening

/-! ### The order of the statuses -/

namespace Status

/-- A status stands at its rank in the list of all statuses. -/
lemma getElem?_all_rank (s : Status) : all[s.rank]? = some s := by
  cases s <;> rfl

lemma rank_injective {s t : Status} (h : s.rank = t.rank) : s = t := by
  have hs := getElem?_all_rank s
  rw [h, getElem?_all_rank t] at hs
  exact (Option.some.inj hs).symm

instance : LinearOrder Status where
  le_refl s := Nat.le_refl s.rank
  le_trans _ _ _ h h' := Nat.le_trans h h'
  le_antisymm _ _ h h' := rank_injective (Nat.le_antisymm h h')
  le_total s t := Nat.le_total s.rank t.rank
  toDecidableLE := inferInstance
  min_def _ _ := rfl

lemma highRisk_le (s : Status) : highRisk ≤ s :=
  Nat.zero_le s.rank

end Status

/-! ### Merged criteria -/

namespace Criteria

/-- Two criteria can be merged into a third one in either order. -/
lemma merge_right_comm (c d e : Criteria) : (c.merge d).merge e = (c.merge e).merge d := by
  have hunion (s t u : EntrySet) : (s.union t).union u = (s.union u).union t := by
    refine EntrySet.ext fun entry => ?_
    simp only [EntrySet.mem_union]
    rw [or_assoc, or_assoc, or_comm (a := entry ∈ t)]
  simp only [merge, hunion c.keywords, hunion c.codes]

/-- The order in which criteria are merged into others does not matter. -/
lemma foldl_merge_perm {extras extras' : List Criteria} (h : extras.Perm extras') (c : Criteria) :
    extras.foldl merge c = extras'.foldl merge c :=
  h.foldl_eq' (fun d _ e _ c => merge_right_comm c d e) c

end Criteria

/-! ### The status under merged criteria -/

namespace Subject

variable (subject : Subject)

/-- Without criteria the markers decide, and then a missing address. -/
lemma status_empty :
    subject.status .empty = subject.markerStatus?.getD
      (if Text.isBlank subject.city && Text.isBlank subject.ctr then .noAddress else .spl) := by
  have hhigh : Criteria.empty.isHighRisk subject.customer = false := rfl
  have hcode : Criteria.empty.isApproved subject.ctr = false := rfl
  rw [status, hhigh, hcode, if_neg Bool.false_ne_true, if_neg Bool.false_ne_true]
  cases subject.markerStatus? <;> rfl

/-- The criteria decide the first two rules, and the rest does not depend on them. -/
lemma status_eq_ite (c : Criteria) :
    subject.status c =
      if c.isHighRisk subject.customer then .highRisk
      else if c.isApproved subject.ctr then .approved
      else subject.status .empty := by
  rw [status_empty, status]
  cases subject.markerStatus? <;> rfl

/-- Without criteria no status is as severe as an approval. -/
lemma approved_le_status_empty : .approved ≤ subject.status .empty := by
  rw [status_empty, markerStatus?]
  cases subject.hasMarker "ZKWD" <;> cases subject.hasMarker "ZEMB" <;>
    cases Text.isBlank subject.city && Text.isBlank subject.ctr <;> decide

/-- Criteria make no status less severe. -/
lemma status_le_status_empty (c : Criteria) : subject.status c ≤ subject.status .empty := by
  rw [status_eq_ite]
  split_ifs
  · exact Status.highRisk_le _
  · exact subject.approved_le_status_empty
  · exact le_refl _

/-- The status under two criteria is the more severe of the two statuses. -/
lemma status_merge (c d : Criteria) :
    subject.status (c.merge d) = min (subject.status c) (subject.status d) := by
  have hlow := subject.approved_le_status_empty
  rw [subject.status_eq_ite (c.merge d), Criteria.isHighRisk_merge, Criteria.isApproved_merge]
  by_cases hc : c.isHighRisk subject.customer
  · have hstatus : subject.status c = .highRisk := by simp [status_eq_ite, hc]
    rw [hstatus, min_eq_left (Status.highRisk_le _)]
    simp [hc]
  by_cases hd : d.isHighRisk subject.customer
  · have hstatus : subject.status d = .highRisk := by simp [status_eq_ite, hd]
    rw [hstatus, min_eq_right (Status.highRisk_le _)]
    simp [hd]
  -- no keyword applies, so a code of either makes the minimum an approval
  rw [subject.status_eq_ite c, subject.status_eq_ite d]
  by_cases hc' : c.isApproved subject.ctr <;> by_cases hd' : d.isApproved subject.ctr <;>
    simp [hc, hd, hc', hd', min_eq_left hlow, min_eq_right hlow]

/-- Criteria merged one after the other give the most severe of all their statuses. -/
lemma status_foldl_merge (extras : List Criteria) (c : Criteria) :
    subject.status (extras.foldl .merge c) =
      (extras.map subject.status).foldl min (subject.status c) := by
  induction extras generalizing c with
  | nil => rfl
  | cons d extras ih => rw [List.foldl_cons, ih, status_merge, List.map_cons, List.foldl_cons]

/-- Further criteria make no status less severe. -/
lemma status_foldl_merge_le (extras : List Criteria) (c : Criteria) :
    subject.status (extras.foldl .merge c) ≤ subject.status c := by
  calc subject.status (extras.foldl .merge c)
      = (extras.map subject.status).foldl min (subject.status c) :=
        subject.status_foldl_merge extras c
    _ = min (subject.status c) ((extras.map subject.status).min?.getD (subject.status c)) :=
        List.foldl_min
    _ ≤ subject.status c := min_le_left _ _

/-- A status that further criteria change becomes one of the first two. -/
lemma matched_of_status_foldl_merge_ne {extras : List Criteria} {c : Criteria}
    (h : subject.status (extras.foldl .merge c) ≠ subject.status c) :
    subject.status (extras.foldl .merge c) = .highRisk ∨
      subject.status (extras.foldl .merge c) = .approved := by
  have hle := subject.status_foldl_merge_le extras c
  rw [subject.status_eq_ite (extras.foldl .merge c)] at h hle ⊢
  split_ifs at h hle ⊢
  · exact .inl rfl
  · exact .inr rfl
  -- the status without criteria is the least severe, so nothing was changed
  · exact absurd (le_antisymm hle (subject.status_le_status_empty c)) h

/-- **Merging takes the most severe status.** Under two criteria a customer has the smaller of the
two statuses. Under any number of further criteria, merged in any order, no status becomes less
severe, and one that changes becomes one of the first two. -/
theorem merging_takes_the_most_severe (c d : Criteria) :
    subject.status (c.merge d) = min (subject.status c) (subject.status d) ∧
    ∀ extras : List Criteria,
      subject.status (extras.foldl .merge c) ≤ subject.status c ∧
      (subject.status (extras.foldl .merge c) ≠ subject.status c →
        subject.status (extras.foldl .merge c) = .highRisk ∨
          subject.status (extras.foldl .merge c) = .approved) ∧
      ∀ extras', extras.Perm extras' →
        subject.status (extras.foldl .merge c) = subject.status (extras'.foldl .merge c) := by
  refine ⟨subject.status_merge c d, fun extras => ⟨subject.status_foldl_merge_le extras c,
    subject.matched_of_status_foldl_merge_ne, fun extras' hperm => ?_⟩⟩
  rw [Criteria.foldl_merge_perm hperm c]

end Subject

end Screening
