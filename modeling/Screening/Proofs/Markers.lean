/-
Markers in search texts, and the status that follows.

A marker is looked for in the uppercase of both search texts, joined by a space. It occurs there
exactly if it occurs, case of ASCII letters ignored, in one of the texts as they stand: the space is
part of no marker, and of the characters whose uppercase is longer than one character none can take
part in an occurrence. `ẘ` comes nearest, as its uppercase begins with the `W` of `ZKWD`, but the
ring that follows it is no `D`.

* `Text.Unbroken`: what a word has to be for this.
* `Text.infix_flatMap_upper_iff`: the occurrences of such a word in an uppercase.
* `Subject.hasMarker_iff`: a marker occurs in one of the texts.
* `Subject.status_iff`: the seven statuses, each with its condition.
-/
import Screening.Proofs.Letters
import Screening.Status

namespace Screening

namespace Text

/-! ### Words in an uppercase -/

/-- The expansions of the table as characters. -/
def expanded : List (List Char) :=
  expansions.map fun e => e.2.map Char.ofNat

/-- Of an expansion and a part of the word up to its end, none begins with the other. -/
def Apart (word : List Char) : Prop :=
  ∀ e ∈ expanded, ∀ part ∈ word.tails, part ≠ [] → ¬e <+: part ∧ ¬part <+: e

instance (word : List Char) : Decidable (Apart word) :=
  inferInstanceAs (Decidable (∀ e ∈ expanded, _))

/-- A word of capitals in whose occurrences in an uppercase no expansion can take part. -/
structure Unbroken (word : List Char) : Prop where
  nonempty : word ≠ []
  capital : ∀ c ∈ word, IsOwnCapital c
  /-- No expansion holds the first letter behind a letter of its own. -/
  first : ∀ e ∈ expanded, ∀ c ∈ word.head?, c ∉ e.tail
  apart : Apart word

lemma Apart.of_cons {c : Char} {word : List Char} (h : Apart (c :: word)) : Apart word := by
  intro e he part hpart
  exact h e he part (by rw [List.tails_cons]; exact List.mem_cons_of_mem _ hpart)

/-- No expansion holds a `Z` behind another letter, so a word of capitals that starts with one is
unbroken if no expansion can stand at its ends. -/
lemma Unbroken.of_z {rest : List Char} (hapart : Apart ('Z' :: rest))
    (hcapital : ('Z' :: rest).all (fun c => decide (IsOwnCapital c)) = true) :
    Unbroken ('Z' :: rest) where
  nonempty := List.cons_ne_nil _ _
  capital c hc := of_decide_eq_true (List.all_eq_true.1 hcapital c hc)
  first := by
    have hz : ∀ e ∈ expanded, 'Z' ∉ e.tail := by decide
    intro e he c hc
    cases hc
    exact hz e he
  apart := hapart

/-- The uppercase of a character is one character or one of the expansions. -/
lemma upper_singleton_or_mem_expanded (x : Char) :
    (∃ d, upper x = [d]) ∨ upper x ∈ expanded := by
  rcases upper_eq_singleton_or x with h | ⟨e, he, hx⟩
  · exact .inl h
  · exact .inr (hx ▸ List.mem_map_of_mem he)

/-- A word that stays apart from all expansions begins an uppercase exactly if, case ignored, it
begins the text. -/
lemma prefix_flatMap_upper_iff {word : List Char} (hcapital : ∀ c ∈ word, IsOwnCapital c)
    (hapart : Apart word) (text : List Char) :
    word <+: text.flatMap upper ↔ word.map Char.toLower <+: text.map Char.toLower := by
  induction word generalizing text with
  | nil => simp
  | cons c word ih =>
    have hc := hcapital c List.mem_cons_self
    cases text with
    | nil => simp
    | cons x text =>
      have ih := ih (fun d hd => hcapital d (List.mem_cons_of_mem c hd)) hapart.of_cons text
      rw [List.flatMap_cons, List.map_cons, List.map_cons, List.cons_prefix_cons, ← ih,
        eq_comm, ← upper_eq_singleton_iff hc]
      rcases upper_singleton_or_mem_expanded x with ⟨d, hd⟩ | hx
      · rw [hd, List.singleton_append, List.cons_prefix_cons, List.singleton_inj, eq_comm]
      · obtain ⟨hpart, hpart'⟩ := hapart _ hx (c :: word) (by simp) (by simp)
        constructor
        · intro h
          -- the word and the expansion both begin the text, so one begins with the other
          rcases List.prefix_or_prefix_of_prefix h (List.prefix_append _ _) with h' | h'
          · exact absurd h' hpart'
          · exact absurd h' hpart
        · rintro ⟨h, -⟩
          rw [h] at hpart
          exact absurd (by simp) hpart

/-- An occurrence that begins with none of some characters begins after them. -/
lemma infix_append_of_head_not_mem {c : Char} {word front rest : List Char} (hc : c ∉ front)
    (h : c :: word <:+: front ++ rest) : c :: word <:+: rest := by
  induction front with
  | nil => exact h
  | cons d front ih =>
    rw [List.mem_cons, not_or] at hc
    rw [List.cons_append, List.infix_cons_iff, List.cons_prefix_cons] at h
    rcases h with ⟨h, -⟩ | h
    · exact absurd h hc.1
    · exact ih hc.2 h

/-- Behind the first character of an uppercase there is no first letter of an unbroken word. -/
lemma Unbroken.exists_upper_eq_cons {c : Char} {word : List Char} (hw : Unbroken (c :: word))
    (x : Char) : ∃ d tail, upper x = d :: tail ∧ c ∉ tail := by
  rcases upper_eq_singleton_or x with ⟨d, hd⟩ | ⟨e, he, hx⟩
  · exact ⟨d, [], hd, by simp⟩
  · have hlength := two_le_length_of_mem_expansions e he
    obtain ⟨n, ns, hns⟩ := List.exists_cons_of_length_pos (l := e.2) (by omega)
    have hfirst := hw.first _ (List.mem_map_of_mem he) c rfl
    rw [hns] at hfirst hx
    exact ⟨_, _, hx, hfirst⟩

/-- An unbroken word occurs in an uppercase exactly if, case ignored, it occurs in the text. -/
lemma infix_flatMap_upper_iff {word : List Char} (hw : Unbroken word) (text : List Char) :
    word <:+: text.flatMap upper ↔ word.map Char.toLower <:+: text.map Char.toLower := by
  obtain ⟨c, rest, rfl⟩ := List.exists_cons_of_ne_nil hw.nonempty
  induction text with
  | nil => simp
  | cons x text ih =>
    obtain ⟨d, tail, hx, hc⟩ := hw.exists_upper_eq_cons x
    have hprefix := prefix_flatMap_upper_iff hw.capital hw.apart (x :: text)
    have hlater : c :: rest <:+: tail ++ text.flatMap upper ↔ c :: rest <:+: text.flatMap upper :=
      ⟨infix_append_of_head_not_mem hc, fun h => h.trans (List.suffix_append _ _).isInfix⟩
    rw [List.flatMap_cons, hx, List.cons_append] at hprefix ⊢
    rw [List.infix_cons_iff, hprefix, hlater, ih]
    exact List.infix_cons_iff.symm

/-! ### Words in two texts -/

/-- A list without an element occurs in two lists joined by it exactly if it occurs in one. -/
lemma infix_append_cons_iff {α : Type} {s : α} {part xs ys : List α} (hs : s ∉ part) :
    part <:+: xs ++ s :: ys ↔ part <:+: xs ∨ part <:+: ys := by
  constructor
  · intro h
    rcases List.infix_append_iff_ne_nil.1 h with h | h | ⟨l₁, l₂, -, hne, rfl, -, h⟩
    · exact .inl h
    · rcases List.infix_cons_iff.1 h with h | h
      · cases part with
        | nil => exact .inl List.nil_infix
        | cons c part =>
          obtain ⟨rfl, -⟩ := List.cons_prefix_cons.1 h
          exact absurd List.mem_cons_self hs
      · exact .inr h
    · obtain ⟨c, l₂, rfl⟩ := List.exists_cons_of_ne_nil hne
      obtain ⟨rfl, -⟩ := List.cons_prefix_cons.1 h
      exact absurd (by simp) hs
  · rintro (h | h)
    · exact h.trans (List.prefix_append _ _).isInfix
    · exact h.trans ((List.suffix_cons s ys).trans (List.suffix_append xs _)).isInfix

/-- Whether a word, written in small letters, occurs in a text, the case of ASCII letters ignored. -/
def Mentions (word text : String) : Prop :=
  word.toList <:+: text.toList.map Char.toLower

end Text

/-! ### Markers -/

namespace Subject

variable (subject : Subject)

/-- A marker is found exactly if one of the search texts mentions it. -/
lemma hasMarker_iff {marker small : String} (hw : Text.Unbroken marker.toList)
    (hs : marker.toList.map Char.toLower = small.toList) :
    subject.hasMarker marker = true ↔
      Text.Mentions small subject.textA ∨ Text.Mentions small subject.textB := by
  have hspace : ' ' ∉ small.toList := by
    rw [← hs, List.mem_map]
    rintro ⟨c, hc, h⟩
    have hcapital := (hw.capital c hc).1
    have hlower := Text.toNat_toLower c
    rw [h, if_pos hcapital, show ' '.toNat = 32 from rfl] at hlower
    omega
  have htexts : (subject.textA ++ " " ++ subject.textB).toList.map Char.toLower =
      subject.textA.toList.map Char.toLower ++ ' ' :: subject.textB.toList.map Char.toLower := by
    simp
  rw [hasMarker, Text.occurs, Text.occursIn_iff_infix, folded, Text.toList_fold,
    Text.infix_flatMap_upper_iff hw, htexts, hs, Text.infix_append_cons_iff hspace]
  rfl

lemma unbroken_zkwd : Text.Unbroken "ZKWD".toList :=
  show Text.Unbroken ('Z' :: ['K', 'W', 'D']) from .of_z (by decide) (by decide)

lemma unbroken_zemb : Text.Unbroken "ZEMB".toList :=
  show Text.Unbroken ('Z' :: ['E', 'M', 'B']) from .of_z (by decide) (by decide)

/-- Whether one of the search texts mentions a word. -/
def Mentions (word : String) : Prop :=
  Text.Mentions word subject.textA ∨ Text.Mentions word subject.textB

lemma hasMarker_zkwd : subject.hasMarker "ZKWD" = true ↔ subject.Mentions "zkwd" :=
  subject.hasMarker_iff unbroken_zkwd (by decide)

lemma hasMarker_zemb : subject.hasMarker "ZEMB" = true ↔ subject.Mentions "zemb" :=
  subject.hasMarker_iff unbroken_zemb (by decide)

end Subject

/-! ### Entries -/

namespace Criteria

variable (criteria : Criteria)

/-- Whether the uppercase of a name holds that of a keyword which is not all white space. -/
def Names (customer : String) : Prop :=
  ∃ keyword ∈ criteria.keywords, (∃ c ∈ keyword.toList, Text.isSpace c = false) ∧
    (Text.fold keyword).toList <:+: (Text.fold customer).toList

/-- Whether a code has the uppercase of an approved one which is not all white space. -/
def Clears (ctr : String) : Prop :=
  ∃ code ∈ criteria.codes, (∃ c ∈ code.toList, Text.isSpace c = false) ∧
    Text.fold code = Text.fold ctr

lemma isHighRisk_iff_names {customer : String} :
    criteria.isHighRisk customer = true ↔ criteria.Names customer := by
  rw [isHighRisk_iff]
  refine exists_congr fun keyword => and_congr_right fun _ => ?_
  rw [Text.containsFolded_iff, Text.isBlank_eq_false_iff]

lemma isApproved_iff_clears {ctr : String} :
    criteria.isApproved ctr = true ↔ criteria.Clears ctr := by
  rw [isApproved_iff]
  refine exists_congr fun code => and_congr_right fun _ => ?_
  rw [Text.equalsFolded, Bool.and_eq_true, Bool.not_eq_true', Text.isBlank_eq_false_iff,
    beq_iff_eq, eq_comm]

end Criteria

/-! ### The rules -/

namespace Subject

variable (subject : Subject) (criteria : Criteria)

/-- Whether no entry of the criteria applies. -/
def Unmatched : Prop :=
  ¬criteria.Names subject.customer ∧ ¬criteria.Clears subject.ctr

/-- Whether the city and the code hold white space only. -/
def LacksAddress : Prop :=
  (∀ c ∈ subject.city.toList, Text.isSpace c = true) ∧
    ∀ c ∈ subject.ctr.toList, Text.isSpace c = true

lemma isBlank_and_isBlank_iff :
    (Text.isBlank subject.city && Text.isBlank subject.ctr) = true ↔ subject.LacksAddress := by
  rw [Bool.and_eq_true, Text.isBlank_iff, Text.isBlank_iff]
  rfl

/-- **The rules.** Each status is given exactly under its condition: a keyword in the name, then an
approved code, then the markers that a search text mentions, then a missing city and code. -/
theorem status_iff :
    (subject.status criteria = .highRisk ↔ criteria.Names subject.customer) ∧
    (subject.status criteria = .approved ↔
      ¬criteria.Names subject.customer ∧ criteria.Clears subject.ctr) ∧
    (subject.status criteria = .zkwdAndZemb ↔
      subject.Unmatched criteria ∧ subject.Mentions "zkwd" ∧ subject.Mentions "zemb") ∧
    (subject.status criteria = .zkwd ↔
      subject.Unmatched criteria ∧ subject.Mentions "zkwd" ∧ ¬subject.Mentions "zemb") ∧
    (subject.status criteria = .zemb ↔
      subject.Unmatched criteria ∧ ¬subject.Mentions "zkwd" ∧ subject.Mentions "zemb") ∧
    (subject.status criteria = .noAddress ↔
      subject.Unmatched criteria ∧ ¬subject.Mentions "zkwd" ∧ ¬subject.Mentions "zemb" ∧
        subject.LacksAddress) ∧
    (subject.status criteria = .spl ↔
      subject.Unmatched criteria ∧ ¬subject.Mentions "zkwd" ∧ ¬subject.Mentions "zemb" ∧
        ¬subject.LacksAddress) := by
  rw [Unmatched, ← criteria.isHighRisk_iff_names, ← criteria.isApproved_iff_clears,
    ← subject.hasMarker_zkwd, ← subject.hasMarker_zemb, ← subject.isBlank_and_isBlank_iff,
    status, markerStatus?]
  -- one case for each outcome of the five tests
  cases criteria.isHighRisk subject.customer
  · cases criteria.isApproved subject.ctr
    · cases subject.hasMarker "ZKWD" <;> cases subject.hasMarker "ZEMB" <;>
        cases Text.isBlank subject.city && Text.isBlank subject.ctr <;>
        simp [Status.ofMarkers?]
    · simp
  · simp

/-- A marker cut in two, and one with `ẘ` for its third letter, are none. -/
example : (Subject.mk "Acme" "DE" "Berlin" "ZKẘD ZK" "WD").status .empty = .spl := by
  decide

end Subject

end Screening
