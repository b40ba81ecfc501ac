/-
Computations that may fail.

A result of a computation made of others comes from results of these, and a list is made into
another if each of its elements is.

* `exists_of_map_eq_ok`, `exists_of_bind_eq_ok`: where a result comes from.
* `mapM_eq_ok`, `mapM_eq_error`, `exists_of_mem_mapM`: lists whose elements are made into others.
-/
import Mathlib.Tactic.TypeStar
import Mathlib.Tactic.Lemma

namespace Screening

variable {ε α β : Type}

/-! ### Results -/

/-- What is made of a result comes from a result. -/
lemma exists_of_map_eq_ok {x : Except ε α} {f : α → β} {b : β} (h : x.map f = .ok b) :
    ∃ a, x = .ok a ∧ f a = b := by
  cases x with
  | error e => cases h
  | ok a =>
    cases h
    exact ⟨a, rfl, rfl⟩

/-- A result of one computation after another comes from a result of each. -/
lemma exists_of_bind_eq_ok {x : Except ε α} {f : α → Except ε β} {b : β} (h : x >>= f = .ok b) :
    ∃ a, x = .ok a ∧ f a = .ok b := by
  cases x with
  | error e => cases h
  | ok a => exact ⟨a, rfl, h⟩

/-- Other words for a fault do not change a result. -/
lemma eq_ok_of_mapError_eq_ok {ε' : Type} {x : Except ε α} {f : ε → ε'} {a : α}
    (h : x.mapError f = .ok a) : x = .ok a := by
  cases x with
  | error e => cases h
  | ok a' =>
    cases h
    rfl

/-! ### Lists whose elements are made into others -/

/-- What is made of each element of a list is made of the list. -/
lemma mapM_eq_ok {f : α → Except ε β} {k : α → β} {l : List α}
    (h : ∀ a ∈ l, f a = .ok (k a)) : l.mapM f = .ok (l.map k) := by
  induction l with
  | nil => rfl
  | cons a l ih =>
    rw [List.mapM_cons, h a List.mem_cons_self, ih fun b hb => h b (List.mem_cons_of_mem _ hb)]
    rfl

/-- Where only one fault is possible, an element with the fault gives it to the list. -/
lemma mapM_eq_error [Subsingleton ε] {f : α → Except ε β} {e : ε} {l : List α}
    (h : ∃ a ∈ l, f a = .error e) : l.mapM f = .error e := by
  induction l with
  | nil =>
    obtain ⟨a, hmem, -⟩ := h
    cases hmem
  | cons a l ih =>
    rw [List.mapM_cons]
    cases hfirst : f a with
    | error e' => exact congrArg Except.error (Subsingleton.elim e' e)
    | ok b =>
      obtain ⟨a', hmem, herror⟩ := h
      rcases List.mem_cons.1 hmem with rfl | hmem
      · rw [hfirst] at herror
        cases herror
      · show (l.mapM f >>= fun bs => pure (b :: bs)) = _
        rw [ih ⟨a', hmem, herror⟩]
        rfl

/-- What is made of a list comes from its elements. -/
lemma exists_of_mem_mapM {f : α → Except ε β} {l : List α} {made : List β}
    (h : l.mapM f = .ok made) {b : β} (hb : b ∈ made) : ∃ a ∈ l, f a = .ok b := by
  induction l generalizing made with
  | nil =>
    cases h
    exact absurd hb List.not_mem_nil
  | cons a l ih =>
    rw [List.mapM_cons] at h
    obtain ⟨first, hfirst, h⟩ := exists_of_bind_eq_ok h
    obtain ⟨rest, hrest, h⟩ := exists_of_bind_eq_ok h
    cases h
    rcases List.mem_cons.1 hb with rfl | hb
    · exact ⟨a, List.mem_cons_self, hfirst⟩
    · obtain ⟨a', hmem, hmade⟩ := ih hrest hb
      exact ⟨a', List.mem_cons_of_mem a hmem, hmade⟩

end Screening
