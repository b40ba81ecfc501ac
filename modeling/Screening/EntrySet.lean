/-
Sets of entries in increasing order.

A set is a strictly increasing list of texts, compared by code points, so two sets with the same
entries are equal and the order of a set is that of its listing.

* `mem_insert`, `mem_erase`, `mem_union`, `mem_ofList`: what the operations hold.
* `ext`: two sets with the same entries are equal.
-/

namespace Screening

/-- A set of texts, listed in strictly increasing order. -/
structure EntrySet where
  toList : List String
  increasing : toList.Pairwise (· < ·)
  deriving DecidableEq

namespace EntrySet

instance : Membership String EntrySet :=
  ⟨fun set entry => entry ∈ set.toList⟩

theorem mem_def {entry : String} {set : EntrySet} : entry ∈ set ↔ entry ∈ set.toList := Iff.rfl

instance (entry : String) (set : EntrySet) : Decidable (entry ∈ set) :=
  inferInstanceAs (Decidable (entry ∈ set.toList))

/-! ### Order -/

/-- Of two different texts one comes first. -/
theorem lt_of_not_lt_of_ne {a b : String} (h : ¬a < b) (hne : a ≠ b) : b < a :=
  Decidable.byContradiction fun h' => hne (String.le_antisymm (String.not_lt.1 h') (String.not_lt.1 h))

/-- Two increasing lists with the same members are equal. -/
theorem eq_of_mem_iff {l m : List String} (hl : l.Pairwise (· < ·)) (hm : m.Pairwise (· < ·))
    (h : ∀ entry, entry ∈ l ↔ entry ∈ m) : l = m := by
  induction l generalizing m with
  | nil =>
    cases m with
    | nil => rfl
    | cons b m => exact absurd ((h b).2 List.mem_cons_self) (by simp)
  | cons a l ih =>
    cases m with
    | nil => exact absurd ((h a).1 List.mem_cons_self) (by simp)
    | cons b m =>
      rw [List.pairwise_cons] at hl hm
      have hab : a = b := by
        rcases List.mem_cons.1 ((h a).1 List.mem_cons_self) with e | ha
        · exact e
        rcases List.mem_cons.1 ((h b).2 List.mem_cons_self) with e | hb
        · exact e.symm
        exact absurd (String.lt_trans (hl.1 b hb) (hm.1 a ha)) (String.lt_irrefl a)
      subst hab
      rw [ih hl.2 hm.2 fun entry => ?_]
      have hiff := h entry
      simp only [List.mem_cons] at hiff
      constructor
      · intro he
        rcases hiff.1 (.inr he) with rfl | he'
        · exact absurd (hl.1 _ he) (String.lt_irrefl _)
        · exact he'
      · intro he
        rcases hiff.2 (.inr he) with rfl | he'
        · exact absurd (hm.1 _ he) (String.lt_irrefl _)
        · exact he'

/-- Two sets with the same entries are equal. -/
theorem ext {s t : EntrySet} (h : ∀ entry, entry ∈ s ↔ entry ∈ t) : s = t := by
  cases s with
  | mk l hl =>
    cases t with
    | mk m hm => simp only [mk.injEq]; exact eq_of_mem_iff hl hm h

/-! ### Operations -/

/-- The set without entries. -/
def empty : EntrySet := ⟨[], .nil⟩

/-- Whether a set has no entries. -/
def isEmpty (set : EntrySet) : Bool := set.toList.isEmpty

/-- A list with an entry at its place; a list that has the entry stays as it is. -/
def insertList (entry : String) : List String → List String
  | [] => [entry]
  | e :: rest =>
    if entry < e then entry :: e :: rest
    else if entry = e then e :: rest
    else e :: insertList entry rest

theorem mem_insertList {entry e : String} {l : List String} :
    e ∈ insertList entry l ↔ e = entry ∨ e ∈ l := by
  induction l with
  | nil => simp [insertList]
  | cons a l ih =>
    rw [insertList]; split
    · simp
    · split
      next h => subst h; simp
      · simp only [List.mem_cons, ih]
        constructor
        · rintro (h | h | h) <;> simp [h]
        · rintro (h | h | h) <;> simp [h]

theorem pairwise_insertList {entry : String} {l : List String} (h : l.Pairwise (· < ·)) :
    (insertList entry l).Pairwise (· < ·) := by
  induction l with
  | nil => simp [insertList]
  | cons a l ih =>
    rw [List.pairwise_cons] at h
    rw [insertList]; split
    next hlt =>
      refine List.pairwise_cons.2 ⟨fun b hb => ?_, List.pairwise_cons.2 h⟩
      rcases List.mem_cons.1 hb with rfl | hb
      · exact hlt
      · exact String.lt_trans hlt (h.1 b hb)
    next hlt =>
      split
      · exact List.pairwise_cons.2 h
      next hne =>
        refine List.pairwise_cons.2 ⟨fun b hb => ?_, ih h.2⟩
        rcases mem_insertList.1 hb with rfl | hb
        · exact lt_of_not_lt_of_ne hlt hne
        · exact h.1 b hb

/-- The set with an entry. -/
def insert (entry : String) (set : EntrySet) : EntrySet :=
  ⟨insertList entry set.toList, pairwise_insertList set.increasing⟩

/-- The set without an entry. -/
def erase (entry : String) (set : EntrySet) : EntrySet :=
  ⟨set.toList.filter (· ≠ entry), set.increasing.filter _⟩

/-- The set with all entries of a list. -/
def insertAll (entries : List String) (set : EntrySet) : EntrySet :=
  entries.foldl (fun set entry => set.insert entry) set

/-- The set of the entries of a list. -/
def ofList (entries : List String) : EntrySet :=
  empty.insertAll entries

/-- The set of the entries of either set. -/
def union (s t : EntrySet) : EntrySet :=
  s.insertAll t.toList

/-! ### Members -/

@[simp] theorem not_mem_empty (entry : String) : entry ∉ empty := by
  simp [mem_def, empty]

@[simp] theorem mem_insert {entry e : String} {set : EntrySet} :
    e ∈ set.insert entry ↔ e = entry ∨ e ∈ set :=
  mem_insertList

@[simp] theorem mem_erase {entry e : String} {set : EntrySet} :
    e ∈ set.erase entry ↔ e ∈ set ∧ e ≠ entry := by
  simp [mem_def, erase]

@[simp] theorem mem_insertAll {entries : List String} {e : String} {set : EntrySet} :
    e ∈ set.insertAll entries ↔ e ∈ entries ∨ e ∈ set := by
  induction entries generalizing set with
  | nil => simp [insertAll]
  | cons a entries ih =>
    have := @ih (set.insert a)
    simp only [insertAll, List.foldl_cons] at this ⊢
    rw [this]
    simp only [mem_insert, List.mem_cons]
    constructor
    · rintro (h | h | h) <;> simp [h]
    · rintro ((h | h) | h) <;> simp [h]

@[simp] theorem mem_ofList {entries : List String} {e : String} :
    e ∈ ofList entries ↔ e ∈ entries := by
  simp [ofList]

@[simp] theorem mem_union {s t : EntrySet} {e : String} : e ∈ s.union t ↔ e ∈ s ∨ e ∈ t := by
  rw [union, mem_insertAll, or_comm]; rfl

end EntrySet

end Screening
