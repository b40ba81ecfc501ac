/-
Readers that see no further than the value.

A string, a list and an object end with a mark of their own, so a reader that takes one off a text
takes the same off every longer text. Such a reader accepts no beginning of a text that is one value
to its last character.

* `Reader.Closed`: what follows a value does not matter to the reader.
* `closed_string`, `Reader.Closed.list`, `Reader.Closed.record`: the readers are of this kind.
* `Reader.Closed.exists_error_of_prefix`: no beginning of a value is read as a value.
-/
import Screening.Proofs.Json.Spelling
import Screening.Proofs.Json.Skipping

namespace Screening.Json

/-- What follows a value does not matter: what the reader takes off a text it takes off every longer
one, and leaves as much more of it. -/
structure Reader.Closed {α : Type} (reader : Reader α) : Prop where
  read_append : ∀ {cs rest : List Char} {a : α}, reader.read cs = .ok (a, rest) →
    ∀ more, reader.read (cs ++ more) = .ok (a, rest ++ more)

variable {α β σ : Type} {cs rest : List Char}

/-! ### Strings -/

/-- The reader of a string is closed. -/
lemma closed_string : Reader.string.Closed where
  read_append {cs rest s} h more := by
    change readText cs = _ at h
    show readText _ = _
    rw [readText] at h
    split at h
    next r hr =>
      obtain ⟨⟨s', rest'⟩, hs, heq⟩ := exists_of_map_eq_ok h
      cases heq
      rw [readText, skipSpace_append hr]
      show Except.map _ (readString (r ++ more)) = _
      rw [readString_append hs]
      rfl
    next => cases h

/-- What is made of the values of a closed reader is read by a closed one. -/
lemma Reader.Closed.map {reader : Reader α} (h : reader.Closed) (f : α → β) :
    (reader.map f).Closed where
  read_append {cs rest b} hread more := by
    obtain ⟨⟨a, rest'⟩, ha, heq⟩ := exists_of_map_eq_ok hread
    cases heq
    show Except.map _ (reader.read (cs ++ more)) = _
    rw [h.read_append ha]
    rfl

/-! ### Lists -/

/-- What comes next inside of brackets, in a longer text. -/
def Next.followedBy (more : List Char) : Next → Next
  | close rest => close (rest ++ more)
  | item rest => item (rest ++ more)

lemma nextElement_append {first : Bool} {next : Next} (h : nextElement first cs = .ok next)
    (more : List Char) : nextElement first (cs ++ more) = .ok (next.followedBy more) := by
  rw [nextElement] at h
  split at h
  next => cases h
  next c r hr =>
    rw [nextElement, skipSpace_append hr]
    dsimp only
    split_ifs at h with hclose hfirst hcomma
    · cases h
      rw [if_pos hclose]
      rfl
    · cases h
      rw [if_neg hclose, if_pos hfirst]
      rfl
    · rw [if_neg hclose, if_neg hfirst, if_pos hcomma]
      split at h
      next => cases h
      next d r' hr' =>
        rw [skipSpace_append hr']
        dsimp only
        split at h
        next => cases h
        next hd =>
          cases h
          rw [if_neg hd]
          rfl

lemma readElements_append {item : Reader α} (hitem : item.Closed) {first : Bool} {as : List α}
    (h : readElements item first cs = .ok (as, rest)) (more : List Char) :
    readElements item first (cs ++ more) = .ok (as, rest ++ more) := by
  fun_induction readElements item first cs generalizing as with
  | case1 => cases h
  | case2 first cs rest' hn =>
    cases h
    exact readElements_close (nextElement_append hn more)
  | case3 => cases h
  | case4 first cs r hn a rest' hi hlt ih =>
    obtain ⟨⟨as', rest''⟩, hr, heq⟩ := exists_of_map_eq_ok h
    cases heq
    rw [readElements_item (nextElement_append hn more) (hitem.read_append hi more), ih hr]
    rfl

/-- The reader of a list is closed if that of its elements is. -/
lemma Reader.Closed.list {item : Reader α} (h : item.Closed) : (Reader.list item).Closed where
  read_append {cs rest as} hread more := by
    change readList item cs = _ at hread
    show readList item _ = _
    rw [readList] at hread
    split at hread
    next r hr =>
      rw [readList, skipSpace_append hr]
      exact readElements_append h hread more
    next => cases hread

/-! ### Records -/

lemma closeList_append (h : closeList cs = .ok rest) (more : List Char) :
    closeList (cs ++ more) = .ok (rest ++ more) := by
  rw [closeList] at h
  split at h
  next => cases h
  next c r hr =>
    rw [closeList, skipSpace_append hr]
    dsimp only
    split_ifs at h with hclose hcomma
    · cases h
      rw [if_pos hclose]
    · split at h
      next => split at h <;> cases h
      next => cases h

section Fields

variable {fields : List (Field σ)}

lemma readInOrder_append (hfields : ∀ field ∈ fields, field.reader.Closed) {first : Bool}
    {record record' : σ} (h : readInOrder fields first record cs = .ok (record', rest))
    (more : List Char) :
    readInOrder fields first record (cs ++ more) = .ok (record', rest ++ more) := by
  induction fields generalizing first record cs with
  | nil =>
    rw [readInOrder] at h
    obtain ⟨r, hr, heq⟩ := exists_of_map_eq_ok h
    cases heq
    rw [readInOrder, closeList_append hr]
    rfl
  | cons field fields ih =>
    rw [readInOrder] at h
    split at h
    next => cases h
    next rest' hn =>
      cases h
      rw [readInOrder, nextElement_append hn]
      rfl
    next r hn =>
      split at h
      next => cases h
      next put rest' hf =>
        rw [readInOrder, nextElement_append hn]
        dsimp only [Next.followedBy]
        rw [(hfields field List.mem_cons_self).read_append hf]
        exact ih (fun field hfield => hfields field (List.mem_cons_of_mem _ hfield)) h

lemma nextMember_append {first : Bool} {next : Next} (h : nextMember first cs = .ok next)
    (more : List Char) : nextMember first (cs ++ more) = .ok (next.followedBy more) := by
  rw [nextMember] at h
  split at h
  next => cases h
  next c r hr =>
    rw [nextMember, skipSpace_append hr]
    dsimp only
    split_ifs at h with hclose hfirst hquote hcomma
    · cases h
      rw [if_pos hclose]
      rfl
    · cases h
      rw [if_neg hclose, if_pos hfirst, if_pos hquote]
      rfl
    · rw [if_neg hclose, if_neg hfirst, if_pos hcomma]
      split at h
      next => cases h
      next d r' hr' =>
        rw [skipSpace_append hr']
        dsimp only
        split_ifs at h with hd
        cases h
        rw [if_pos hd]
        rfl

lemma readValueOf_append (hfields : ∀ field ∈ fields, field.reader.Closed)
    {state state' : Partial σ} {key : String}
    (h : readValueOf fields state key cs = .ok (state', rest)) (hrest : rest ≠ [])
    (more : List Char) :
    readValueOf fields state key (cs ++ more) = .ok (state', rest ++ more) := by
  rw [readValueOf] at h
  split at h
  next hfind =>
    split at h
    next => cases h
    next r hc =>
      obtain ⟨r', hr, heq⟩ := exists_of_map_eq_ok h
      cases heq
      rw [readValueOf, hfind]
      dsimp only
      rw [skipColon_append hc]
      dsimp only
      rw [skipValue_append hr hrest]
      rfl
  next field hfind =>
    split at h
    next => cases h
    next hseen =>
      split at h
      next => cases h
      next r hc =>
        obtain ⟨⟨put, r'⟩, hr, heq⟩ := exists_of_map_eq_ok h
        cases heq
        rw [readValueOf, hfind]
        dsimp only
        rw [if_neg hseen, skipColon_append hc]
        dsimp only
        rw [(hfields field (List.mem_of_find?_eq_some hfind)).read_append hr]
        rfl

lemma readMembers_append (hfields : ∀ field ∈ fields, field.reader.Closed) {first : Bool}
    {state : Partial σ} {record : σ} (h : readMembers fields first state cs = .ok (record, rest))
    (more : List Char) :
    readMembers fields first state (cs ++ more) = .ok (record, rest ++ more) := by
  fun_induction readMembers fields first state cs with
  | case1 => cases h
  | case2 first state cs rest' hn =>
    cases h
    exact readMembers_close (nextMember_append hn more)
  | case3 => cases h
  | case4 => cases h
  | case5 first state cs r hn key r' hk state' rest' hv hlt ih =>
    -- the brace that ends the object stands behind the value
    have hrest' : rest' ≠ [] := by
      rintro rfl
      exact absurd (length_readMembers_lt h) (Nat.not_lt_zero _)
    rw [readMembers_item (nextMember_append hn more) (readString_append hk more)
      (readValueOf_append hfields hv hrest' more), ih h]

/-- The reader of a record is closed if those of its fields are. -/
lemma Reader.Closed.record (h : ∀ field ∈ fields, field.reader.Closed) (name : String)
    (record : σ) : (Reader.record name fields record).Closed where
  read_append {cs rest record'} hread more := by
    change readRecord name fields record cs = _ at hread
    show readRecord name fields record _ = _
    rw [readRecord] at hread
    split at hread
    next => cases hread
    next c r hr =>
      rw [readRecord, skipSpace_append hr]
      dsimp only
      split_ifs at hread with hlist hobject
      · rw [if_pos hlist, readInOrder_append h hread more]
      · rw [if_neg hlist, if_pos hobject, readMembers_append h hread more]

end Fields

/-! ### Beginnings of a value -/

/-- **No beginning of a value is a value.** Where a closed reader takes a text to its end, it takes no
shorter beginning of the text for a whole text. -/
theorem Reader.Closed.exists_error_of_prefix {reader : Reader α} (h : reader.Closed) {a : α}
    (hread : reader.read cs = .ok (a, [])) {torn : List Char} (hpart : torn <+: cs)
    (hproper : torn ≠ cs) : ∃ e, reader.readAll torn = .error e := by
  obtain ⟨lost, rfl⟩ := hpart
  cases htorn : reader.read torn with
  | error e => exact ⟨e, by rw [Reader.readAll, htorn]⟩
  | ok taken =>
    obtain ⟨b, rest⟩ := taken
    -- with the lost characters behind it the reader would leave these
    have hlost := h.read_append htorn lost
    rw [hread, Except.ok.injEq, Prod.mk.injEq] at hlost
    have hnil := (List.append_eq_nil_iff.1 hlost.2.symm).2
    rw [hnil, List.append_nil] at hproper
    exact absurd rfl hproper

end Screening.Json
