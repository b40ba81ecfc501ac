/-
Readers that stop where a value ends.

Nothing says that a value which a reader takes is one of the grammar, nor that it takes all of one.
But what is taken off a text ends where the text is passed over to, for strings, for lists, and for
what is made of them; and a value of the grammar is passed over exactly. So a reader that takes
anything off a value of the grammar takes all of it and no more.

* `Reader.TakesValues`: readers that stop where passing over does.
* `takesValues_string`, `Reader.TakesValues.list`, `Reader.TakesValues.map`: such readers.
* `Reader.TakesValues.rest_eq`: values of the grammar are taken exactly.
-/
import Mathlib.Data.List.DropRight
import Screening.Proofs.Json.Grammar

namespace Screening.Json

variable {cs text rest gap : List Char}

/-! ### Strings -/

/-- The second half of a surrogate pair is passed over as an escape of its own. -/
lemma skipString_of_readTrailing {leading : ℕ} {c : Char}
    (h : readTrailing leading cs = .ok (c, rest)) : skipString cs = skipString rest := by
  unfold readTrailing at h
  split at h
  case h_3 r =>
    split at h
    next => cases h
    next n r' hr =>
      rw [skipString_of_skipEscape (skipEscape_number hr)]
      split at h
      next =>
        obtain ⟨-, rfl⟩ := Prod.mk.inj (Except.ok.inj h)
        rfl
      next => cases h
  all_goals cases h

/-- What is read of an escape is passed over with the string behind it. -/
lemma skipString_of_readEscape {r : List Char} {c : Char} (h : readEscape r = .ok (c, rest)) :
    skipString ('\\' :: r) = skipString rest := by
  unfold readEscape at h
  split at h
  next => cases h
  next r =>
    split at h
    next => cases h
    next n r' hr =>
      rw [skipString_of_skipEscape (skipEscape_number hr)]
      split at h
      next => cases h
      next =>
        split at h
        next => exact skipString_of_readTrailing h
        next =>
          cases h
          rfl
  next letter r hletter =>
    split at h
    next d hd =>
      cases h
      exact skipString_of_skipEscape (skipEscape_short hd hletter _)
    next => cases h

/-- A string that is read is passed over to the same end. -/
lemma skipString_of_readString {s : List Char} (h : readString cs = .ok (s, rest)) :
    skipString cs = .ok rest := by
  fun_induction readString cs generalizing s with
  | case1 => cases h
  | case2 r =>
    cases h
    rw [skipString]
  | case3 r e he => cases h
  | case4 r c rest' he hlt ih =>
    obtain ⟨⟨s', rest''⟩, hr, heq⟩ := exists_of_map_eq_ok h
    cases heq
    rw [skipString_of_readEscape he, ih hr]
  | case5 c r _ _ hc => cases h
  | case6 c r hquote hback hc ih =>
    obtain ⟨⟨s', rest''⟩, hr, heq⟩ := exists_of_map_eq_ok h
    cases heq
    rw [skipString_cons hquote hback hc, ih hr]

/-! ### Readers -/

/-- A reader that takes a text to the place where it is passed over to. The text may be passed over
from any white space before it. -/
structure Reader.TakesValues {α : Type} (reader : Reader α) : Prop where
  skips : ∀ {cs : List Char} {a : α} {rest : List Char}, reader.read cs = .ok (a, rest) →
    ∀ {cs' : List Char}, skipSpace cs' = skipSpace cs → ∀ stack : List Frame,
      skipInto stack cs' = skipOut stack rest

lemma takesValues_string : Reader.string.TakesValues where
  skips {cs a rest} h cs' hspace stack := by
    have hread : readText cs = .ok (a, rest) := h
    rw [readText] at hread
    split at hread
    next r hr =>
      obtain ⟨⟨s, rest'⟩, hs, heq⟩ := exists_of_map_eq_ok hread
      cases heq
      refine skipInto_scalar ?_ stack
      rw [skipStart, hspace, hr]
      show (skipString r).map _ = _
      rw [skipString_of_readString hs]
      rfl
    next => cases hread

lemma Reader.TakesValues.map {α β : Type} {reader : Reader α} (h : reader.TakesValues) (f : α → β) :
    (reader.map f).TakesValues where
  skips {cs b rest} hread cs' hspace stack := by
    obtain ⟨⟨a, rest'⟩, hr, heq⟩ := exists_of_map_eq_ok hread
    cases heq
    exact h.skips hr hspace stack

/-! ### Lists -/

/-- The end of a list is found behind white space. -/
lemma skipSpace_of_close {first : Bool} (h : nextElement first cs = .ok (.close rest)) :
    skipSpace cs = ']' :: rest := by
  rw [nextElement] at h
  split at h
  next => cases h
  next c r hr =>
    split_ifs at h with hend hfirst hcomma
    · cases h
      rw [hr, hend]
    · cases h
    · split at h
      next => cases h
      next => split at h <;> cases h

/-- The first element is found behind white space. -/
lemma skipSpace_of_first {r : List Char} (h : nextElement true cs = .ok (.item r)) :
    ∃ c r', skipSpace cs = c :: r' ∧ c ≠ ']' ∧ r = c :: r' := by
  rw [nextElement] at h
  split at h
  next => cases h
  next c r' hr =>
    split at h
    next => cases h
    next hne =>
      cases h
      exact ⟨c, r', hr, hne, rfl⟩

/-- A further element is found behind a comma and white space. -/
lemma skipSpace_of_further {r : List Char} (h : nextElement false cs = .ok (.item r)) :
    ∃ r', skipSpace cs = ',' :: r' ∧ r = skipSpace r' := by
  rw [nextElement] at h
  split at h
  next => cases h
  next c r' hr =>
    rw [if_neg Bool.false_ne_true] at h
    split_ifs at h with hend hcomma
    · cases h
    · split at h
      next => cases h
      next d r'' hr' =>
        split at h
        next => cases h
        next =>
          cases h
          exact ⟨r', by rw [hr, hcomma], hr'.symm⟩

lemma skipSpace_skipSpace (cs : List Char) : skipSpace (skipSpace cs) = skipSpace cs :=
  List.dropWhile_idempotent ..

section

variable {α : Type} {item : Reader α}

/-- Further elements that are read are passed over to the end of their list. -/
lemma skipOut_of_readElements (hitem : item.TakesValues) {first : Bool} {as : List α}
    (h : readElements item first cs = .ok (as, rest)) (hfirst : first = false)
    (stack : List Frame) : skipOut (.list :: stack) cs = skipOut stack rest := by
  fun_induction readElements item first cs generalizing as with
  | case1 => cases h
  | case2 first cs rest' hn =>
    cases h
    exact skipOut_listEnd (skipSpace_of_close hn) stack
  | case3 => cases h
  | case4 first cs r hn a rest' hi hlt ih =>
    obtain ⟨⟨as', rest''⟩, hr, heq⟩ := exists_of_map_eq_ok h
    cases heq
    subst hfirst
    obtain ⟨r', hcomma, rfl⟩ := skipSpace_of_further hn
    rw [skipOut_comma hcomma, hitem.skips hi (skipSpace_skipSpace r').symm, ih hr rfl]

lemma Reader.TakesValues.list (hitem : item.TakesValues) : (Reader.list item).TakesValues where
  skips {cs as rest} h cs' hspace stack := by
    have hread : readList item cs = .ok (as, rest) := h
    rw [readList] at hread
    split at hread
    next r hr =>
      have hlist : skipStart cs' = .ok (some .list, r) := by
        rw [skipStart, hspace, hr]
        rfl
      rw [readElements] at hread
      split at hread
      next => cases hread
      next rest' hn =>
        cases hread
        exact skipInto_emptyList hlist (skipSpace_of_close hn) stack
      next r' hn =>
        obtain ⟨c, r'', hfirst, hne, rfl⟩ := skipSpace_of_first hn
        split at hread
        next => cases hread
        next a rest' hi =>
          obtain ⟨⟨as', rest''⟩, has, heq⟩ := exists_of_map_eq_ok hread
          cases heq
          have hsame : skipSpace r = skipSpace (c :: r'') := by
            rw [← hfirst, skipSpace_skipSpace]
          rw [skipInto_list hlist hfirst hne, hitem.skips hi hsame,
            skipOut_of_readElements hitem has rfl]
    next => cases hread

end

/-! ### Values of the grammar -/

/-- A reader that takes a value of the grammar at all takes it exactly. -/
lemma Reader.TakesValues.rest_eq {α : Type} {reader : Reader α} (h : reader.TakesValues)
    (hvalue : IsValue text) (hgap : IsGap gap) (hrest : Stops rest) {a : α} {rest' : List Char}
    (hread : reader.read (gap ++ (text ++ rest)) = .ok (a, rest')) : rest' = rest := by
  have hskip := h.skips hread rfl []
  rw [hvalue.skippable.skips hgap hrest, skipOut_nil, skipOut_nil] at hskip
  exact (Except.ok.inj hskip).symm

end Screening.Json
