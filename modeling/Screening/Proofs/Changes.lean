/-
What requests make of the settings.

A request resets the entries of a kind if asked to, adds the given ones that are not blank, and
removes the given ones, each of them trimmed. What it makes of the keywords does not depend on the
codes, and the other way around, so both follow from one change of a set.

* `changedEntries`: the entries after a request.
* `requestedKeywords`, `requestedCodes`: the entries after several requests.
* `SettingsRequest.asSet_keywords_apply`, `SettingsRequest.asSet_codes_apply`: a request changes the
  settings in this way.
* `Criteria.asSet_keywords_extended`, `Criteria.asSet_codes_extended`: the entries for one run.
-/
import Mathlib.Order.BooleanAlgebra.Set
import Screening.Run

namespace Screening

/-! ### Entries -/

/-- An entry as it is kept: trimmed and not blank. -/
def IsKept (entry : String) : Prop :=
  entry ≠ "" ∧ Text.trim entry = entry

/-- The entries of a list, trimmed. -/
def trimmedSet (entries : List String) : Set String :=
  {e | ∃ entry ∈ entries, Text.trim entry = e}

/-- The entries after a reset that may be asked for, additions, and removals. -/
def changedEntries (reset : Bool) (added removed : List String) (entries : Set String) :
    Set String :=
  ((if reset then ∅ else entries) ∪ (trimmedSet added \ {""})) \ trimmedSet removed

/-- The keywords that requests leave, one after the other, where there were none. -/
def requestedKeywords (requests : List SettingsRequest) : Set String :=
  requests.foldl (fun entries r => changedEntries r.reset r.addKeyword r.removeKeyword entries) ∅

/-- The codes that requests leave, one after the other, where there were none. -/
def requestedCodes (requests : List SettingsRequest) : Set String :=
  requests.foldl (fun entries r => changedEntries r.reset r.addCode r.removeCode entries) ∅

/-- One more request changes the keywords that the others left. -/
lemma requestedKeywords_append (requests : List SettingsRequest) (r : SettingsRequest) :
    requestedKeywords (requests ++ [r])
      = changedEntries r.reset r.addKeyword r.removeKeyword (requestedKeywords requests) := by
  rw [requestedKeywords, List.foldl_append]
  rfl

/-- One more request changes the codes that the others left. -/
lemma requestedCodes_append (requests : List SettingsRequest) (r : SettingsRequest) :
    requestedCodes (requests ++ [r])
      = changedEntries r.reset r.addCode r.removeCode (requestedCodes requests) := by
  rw [requestedCodes, List.foldl_append]
  rfl

lemma trimmedSet_nil : trimmedSet [] = ∅ :=
  Set.eq_empty_of_forall_notMem fun _ ⟨_, hmem, _⟩ => List.not_mem_nil hmem

lemma trimmedSet_cons (entry : String) (entries : List String) :
    trimmedSet (entry :: entries) = {Text.trim entry} ∪ trimmedSet entries := by
  ext e
  constructor
  · rintro ⟨entry', hmem, rfl⟩
    rcases List.mem_cons.1 hmem with rfl | hmem
    · exact .inl rfl
    · exact .inr ⟨entry', hmem, rfl⟩
  · rintro (rfl | ⟨entry', hmem, rfl⟩)
    · exact ⟨entry, List.mem_cons_self, rfl⟩
    · exact ⟨entry', List.mem_cons_of_mem _ hmem, rfl⟩

/-- A change keeps nothing but trimmed entries that are not blank. -/
lemma isKept_of_mem_changedEntries {reset : Bool} {added removed : List String}
    {entries : Set String} (h : ∀ e ∈ entries, IsKept e) {e : String}
    (he : e ∈ changedEntries reset added removed entries) : IsKept e := by
  rcases he.1 with he | ⟨⟨entry, -, rfl⟩, hne⟩
  · cases reset with
    | true => exact absurd he (Set.notMem_empty e)
    | false => exact h e he
  · exact ⟨hne, Text.trim_trim entry⟩

/-- What changes leave one after the other is trimmed and not blank. -/
lemma isKept_of_mem_foldl {α : Type} (reset : α → Bool) (added removed : α → List String)
    (requests : List α) {entries : Set String} (h : ∀ e ∈ entries, IsKept e) :
    ∀ e ∈ requests.foldl (fun entries r => changedEntries (reset r) (added r) (removed r) entries)
      entries, IsKept e := by
  induction requests generalizing entries with
  | nil => exact h
  | cons request requests ih => exact ih fun e he => isKept_of_mem_changedEntries h he

lemma isKept_of_mem_requestedKeywords {requests : List SettingsRequest} {e : String}
    (h : e ∈ requestedKeywords requests) : IsKept e :=
  isKept_of_mem_foldl _ _ _ requests (fun e he => absurd he (Set.notMem_empty e)) e h

lemma isKept_of_mem_requestedCodes {requests : List SettingsRequest} {e : String}
    (h : e ∈ requestedCodes requests) : IsKept e :=
  isKept_of_mem_foldl _ _ _ requests (fun e he => absurd he (Set.notMem_empty e)) e h

/-! ### Sets of entries -/

namespace EntrySet

/-- The entries of a set. -/
def asSet (set : EntrySet) : Set String :=
  {e | e ∈ set}

lemma mem_asSet {set : EntrySet} {e : String} : e ∈ set.asSet ↔ e ∈ set :=
  Iff.rfl

lemma asSet_empty : empty.asSet = ∅ :=
  Set.eq_empty_of_forall_notMem fun e => not_mem_empty e

lemma asSet_union (s t : EntrySet) : (s.union t).asSet = s.asSet ∪ t.asSet := by
  ext e
  exact mem_union

lemma asSet_addTrimmed (set : EntrySet) (entry : String) :
    (set.addTrimmed entry).1.asSet = set.asSet ∪ ({Text.trim entry} \ {""}) := by
  ext e
  rw [addTrimmed]
  split
  next h =>
    constructor
    · exact fun he => .inl he
    · rintro (he | ⟨rfl, hne⟩)
      · exact he
      · exact h.resolve_left hne
  next h =>
    rw [not_or] at h
    rw [mem_asSet, mem_insert]
    constructor
    · rintro (rfl | he)
      · exact .inr ⟨rfl, h.1⟩
      · exact .inl he
    · rintro (he | ⟨rfl, -⟩)
      · exact .inr he
      · exact .inl rfl

lemma asSet_removeTrimmed (set : EntrySet) (entry : String) :
    (set.removeTrimmed entry).1.asSet = set.asSet \ {Text.trim entry} := by
  ext e
  exact mem_erase

lemma asSet_foldl_addTrimmed (entries : List String) (set : EntrySet) :
    (entries.foldl (fun set entry => (set.addTrimmed entry).1) set).asSet
      = set.asSet ∪ (trimmedSet entries \ {""}) := by
  induction entries generalizing set with
  | nil =>
    rw [trimmedSet_nil, Set.empty_sdiff, Set.union_empty]
    rfl
  | cons entry entries ih =>
    rw [List.foldl_cons, ih, asSet_addTrimmed, trimmedSet_cons, Set.union_sdiff_distrib,
      Set.union_assoc]

lemma asSet_foldl_removeTrimmed (entries : List String) (set : EntrySet) :
    (entries.foldl (fun set entry => (set.removeTrimmed entry).1) set).asSet
      = set.asSet \ trimmedSet entries := by
  induction entries generalizing set with
  | nil =>
    rw [trimmedSet_nil, Set.sdiff_empty]
    rfl
  | cons entry entries ih =>
    rw [List.foldl_cons, ih, asSet_removeTrimmed, trimmedSet_cons, Set.sdiff_sdiff]

/-- The set after a reset that may be asked for, additions, and removals. -/
def changed (reset : Bool) (added removed : List String) (set : EntrySet) : EntrySet :=
  removed.foldl (fun set entry => (set.removeTrimmed entry).1)
    (added.foldl (fun set entry => (set.addTrimmed entry).1) (if reset then .empty else set))

lemma asSet_changed (reset : Bool) (added removed : List String) (set : EntrySet) :
    (set.changed reset added removed).asSet = changedEntries reset added removed set.asSet := by
  rw [changed, asSet_foldl_removeTrimmed, asSet_foldl_addTrimmed, changedEntries]
  cases reset with
  | true => rw [if_pos rfl, if_pos rfl, asSet_empty]
  | false => rw [if_neg Bool.false_ne_true, if_neg Bool.false_ne_true]

end EntrySet

/-! ### Requests -/

namespace Settings

/-- Changes of a part of the settings one after the other are one change of it. -/
lemma foldl_set (get : Settings → EntrySet) (set : Settings → EntrySet → Settings)
    (get_set : ∀ s a, get (set s a) = a) (set_set : ∀ s a b, set (set s a) b = set s b)
    (set_get : ∀ s, set s (get s) = s) (change : EntrySet → String → EntrySet)
    (entries : List String) (settings : Settings) :
    entries.foldl (fun s entry => set s (change (get s) entry)) settings
      = set settings (entries.foldl change (get settings)) := by
  induction entries generalizing settings with
  | nil => rw [List.foldl_nil, List.foldl_nil, set_get]
  | cons entry entries ih => rw [List.foldl_cons, List.foldl_cons, ih, get_set, set_set]

lemma foldl_setKeywords (change : EntrySet → String → EntrySet) (entries : List String)
    (settings : Settings) :
    entries.foldl (fun s entry => s.setKeywords (change s.criteria.keywords entry)) settings
      = settings.setKeywords (entries.foldl change settings.criteria.keywords) :=
  foldl_set (·.criteria.keywords) setKeywords (fun _ _ => rfl) (fun _ _ _ => rfl) (fun _ => rfl) change
    entries settings

lemma foldl_setCodes (change : EntrySet → String → EntrySet) (entries : List String)
    (settings : Settings) :
    entries.foldl (fun s entry => s.setCodes (change s.criteria.codes entry)) settings
      = settings.setCodes (entries.foldl change settings.criteria.codes) :=
  foldl_set (·.criteria.codes) setCodes (fun _ _ => rfl) (fun _ _ _ => rfl) (fun _ => rfl) change
    entries settings

end Settings

namespace SettingsRequest

/-- A request changes the keywords and the codes, each on their own. -/
lemma apply_eq (request : SettingsRequest) (settings : Settings) :
    request.apply settings
      = ⟨settings.criteria.keywords.changed request.reset request.addKeyword request.removeKeyword,
          settings.criteria.codes.changed request.reset request.addCode request.removeCode⟩ := by
  show request.removeCode.foldl (fun s e => s.setCodes (s.criteria.codes.removeTrimmed e).1)
    (request.addCode.foldl (fun s e => s.setCodes (s.criteria.codes.addTrimmed e).1)
      (request.removeKeyword.foldl
        (fun s e => s.setKeywords (s.criteria.keywords.removeTrimmed e).1)
        (request.addKeyword.foldl
          (fun s e => s.setKeywords (s.criteria.keywords.addTrimmed e).1)
          (if request.reset then .initial else settings)))) = _
  rw [Settings.foldl_setKeywords fun set e => (set.addTrimmed e).1,
    Settings.foldl_setKeywords fun set e => (set.removeTrimmed e).1,
    Settings.foldl_setCodes fun set e => (set.addTrimmed e).1,
    Settings.foldl_setCodes fun set e => (set.removeTrimmed e).1,
    EntrySet.changed, EntrySet.changed]
  cases request.reset with
  | true => rfl
  | false => rfl

theorem asSet_keywords_apply (request : SettingsRequest) (settings : Settings) :
    (request.apply settings).criteria.keywords.asSet
      = changedEntries request.reset request.addKeyword request.removeKeyword
          settings.criteria.keywords.asSet := by
  rw [apply_eq]
  exact EntrySet.asSet_changed _ _ _ _

theorem asSet_codes_apply (request : SettingsRequest) (settings : Settings) :
    (request.apply settings).criteria.codes.asSet
      = changedEntries request.reset request.addCode request.removeCode
          settings.criteria.codes.asSet := by
  rw [apply_eq]
  exact EntrySet.asSet_changed _ _ _ _

/-- A request that asks for no change. -/
def IsIdle (request : SettingsRequest) : Prop :=
  request.reset = false ∧ request.addKeyword = [] ∧ request.removeKeyword = [] ∧
    request.addCode = [] ∧ request.removeCode = []

lemma changes_eq_false_iff (request : SettingsRequest) :
    request.changes = false ↔ request.IsIdle := by
  rw [changes, Bool.or_eq_false_iff, Bool.not_eq_false']
  simp only [Bool.and_eq_true, List.isEmpty_iff, and_assoc]
  rfl

/-- A request that asks for no change makes none. -/
lemma apply_of_isIdle {request : SettingsRequest} (h : request.IsIdle) (settings : Settings) :
    request.apply settings = settings := by
  obtain ⟨hreset, haddKeyword, hremoveKeyword, haddCode, hremoveCode⟩ := h
  rw [apply, hreset, haddKeyword, hremoveKeyword, haddCode, hremoveCode]
  rfl

end SettingsRequest

/-! ### Entries for one run -/

namespace Criteria

/-- The entries for one run alone are the given ones, trimmed and not blank. -/
lemma asSet_insertAll_trimmedEntries (entries : List String) :
    (EntrySet.empty.insertAll (trimmedEntries entries)).asSet = trimmedSet entries \ {""} := by
  ext e
  rw [EntrySet.mem_asSet, EntrySet.mem_insertAll, or_iff_left (EntrySet.not_mem_empty e),
    trimmedEntries, List.mem_filter, List.mem_map, decide_eq_true_eq]
  rfl

theorem asSet_keywords_extended (criteria : Criteria) (keywords codes : List String) :
    (criteria.extended keywords codes).keywords.asSet
      = criteria.keywords.asSet ∪ (trimmedSet keywords \ {""}) := by
  rw [extended, merge, EntrySet.asSet_union]
  exact congrArg _ (asSet_insertAll_trimmedEntries _)

theorem asSet_codes_extended (criteria : Criteria) (keywords codes : List String) :
    (criteria.extended keywords codes).codes.asSet
      = criteria.codes.asSet ∪ (trimmedSet codes \ {""}) := by
  rw [extended, merge, EntrySet.asSet_union]
  exact congrArg _ (asSet_insertAll_trimmedEntries _)

end Criteria

end Screening
