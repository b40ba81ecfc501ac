/-
Texts that spell a value.

A text spells a value for a reader if the reader takes exactly the text for it, whatever follows
and however much white space stands before. Texts of parts are put together between brackets, and
what the parts spell decides what the whole spells:

* `Reader.Spells`: the relation between a reader, a value and a text.
* `spells_quoted_of_readString`, `spells_string`: texts between quotes, and written strings.
* `spells_list`, `spells_listOf`: lists, in any layout of white space.
* `spells_record`: objects with members of a record, each at most once.
* `Spells.parse_eq`: a spelled value is the value of the whole text.
-/
import Mathlib.Data.List.Forall2
import Screening.Json.Reader
import Screening.Proofs.Json.Strings

namespace Screening.Json

/-! ### White space -/

/-- White space only. -/
def IsGap (cs : List Char) : Prop :=
  ∀ c ∈ cs, isSpace c = true

instance (cs : List Char) : Decidable (IsGap cs) :=
  List.decidableBAll _ cs

lemma isGap_nil : IsGap [] := by
  intro c hc
  exact absurd hc List.not_mem_nil

/-- White space is passed over. -/
lemma skipSpace_gap {gap : List Char} (h : IsGap gap) (cs : List Char) :
    skipSpace (gap ++ cs) = skipSpace cs :=
  List.dropWhile_append_of_pos h

/-- Nothing is passed over in front of another character. -/
lemma skipSpace_cons {c : Char} (h : isSpace c = false) (r : List Char) :
    skipSpace (c :: r) = c :: r := by
  refine List.dropWhile_cons_of_neg ?_
  rw [h]
  exact Bool.false_ne_true

/-- White space in front of another character is passed over. -/
lemma skipSpace_gap_cons {gap : List Char} (h : IsGap gap) {c : Char} (hc : isSpace c = false)
    (r : List Char) : skipSpace (gap ++ c :: r) = c :: r := by
  rw [skipSpace_gap h, skipSpace_cons hc]

/-- A layout that puts white space between parts, and nothing else. -/
structure Layout.Blank (layout : Layout) : Prop where
  line : ∀ depth, IsGap (layout.line depth)
  afterColon : IsGap layout.afterColon

lemma Layout.blank_compact : Layout.compact.Blank where
  line _ := isGap_nil
  afterColon := isGap_nil

lemma Layout.blank_indented : Layout.indented.Blank where
  line depth := by
    intro c hc
    rcases List.mem_cons.1 hc with rfl | hc
    · rfl
    · rw [List.eq_of_mem_replicate hc]
      rfl
  afterColon := by
    intro c hc
    rw [List.mem_singleton.1 hc]
    rfl

/-! ### Values -/

/-- A text spells a value: the reader takes the text for the value, whatever stands around it. Such
a text starts neither with white space nor with the end of a list. -/
structure Reader.Spells {α : Type} (reader : Reader α) (a : α) (cs : List Char) : Prop where
  starts : ∃ c r, cs = c :: r ∧ isSpace c = false ∧ c ≠ ']'
  reads : ∀ {gap : List Char}, IsGap gap → ∀ rest : List Char,
    reader.read (gap ++ (cs ++ rest)) = .ok (a, rest)

variable {α β : Type}

/-- A text that spells a value is taken for it where it begins. -/
lemma Reader.Spells.read_eq {reader : Reader α} {a : α} {cs : List Char} (h : reader.Spells a cs)
    (rest : List Char) : reader.read (cs ++ rest) = .ok (a, rest) :=
  h.reads isGap_nil rest

/-- What is made of a value is spelled by the same text. -/
lemma Reader.Spells.map {reader : Reader α} {a : α} {cs : List Char} (h : reader.Spells a cs)
    (f : α → β) : (reader.map f).Spells (f a) cs where
  starts := h.starts
  reads hgap rest := by
    show Except.map _ _ = _
    rw [h.reads hgap rest]
    rfl

/-- A text between quotes. -/
def quoted (text : List Char) : List Char :=
  '"' :: (text ++ ['"'])

lemma quoted_append (text rest : List Char) : quoted text ++ rest = '"' :: (text ++ '"' :: rest) := by
  rw [quoted, List.cons_append, List.append_assoc, List.singleton_append]

/-- A text between quotes spells the string that is read of it. -/
lemma spells_quoted_of_readString {s : String} {text : List Char}
    (h : ∀ rest, readString (text ++ '"' :: rest) = .ok (s.toList, rest)) :
    Reader.string.Spells s (quoted text) where
  starts := ⟨'"', _, rfl, rfl, by decide⟩
  reads {gap} hgap rest := by
    show readText _ = _
    rw [readText, quoted_append, skipSpace_gap_cons hgap rfl]
    show Except.map _ (readString _) = _
    rw [h]
    show Except.ok (String.ofList s.toList, rest) = _
    rw [String.ofList_toList]

/-- A written string spells the string. -/
lemma spells_string (s : String) : Reader.string.Spells s (writeString s) :=
  spells_quoted_of_readString (readString_flatMap_escape s.toList)

/-- The value of a whole text is the one that it spells. -/
theorem Reader.Spells.parse_eq {reader : Reader α} {a : α} {cs : List Char}
    (h : reader.Spells a cs) : reader.parse (String.ofList cs) = .ok a := by
  have hread : reader.read cs = .ok (a, []) := by
    have := h.read_eq []
    rwa [List.append_nil] at this
  rw [Reader.parse, Reader.readAll, String.toList_ofList, hread]
  rfl

/-! ### Brackets -/

/-- What stands in brackets after the first part: the other parts, each after a comma. -/
def furtherParts (line : List Char) (parts : List (List Char)) : List Char :=
  parts.flatMap fun part => ',' :: line ++ part

lemma furtherParts_cons (line part : List Char) (parts : List (List Char)) (rest : List Char) :
    furtherParts line (part :: parts) ++ rest
      = ',' :: (line ++ (part ++ (furtherParts line parts ++ rest))) := by
  rw [furtherParts, List.flatMap_cons, List.cons_append, List.cons_append, List.cons_append,
    List.append_assoc, List.append_assoc]
  rfl

lemma bracket_nil (layout : Layout) (depth : ℕ) (opening closing : Char) (rest : List Char) :
    bracket layout depth opening closing [] ++ rest = opening :: closing :: rest :=
  rfl

lemma bracket_cons (layout : Layout) (depth : ℕ) (opening closing : Char) (part : List Char)
    (parts : List (List Char)) (rest : List Char) :
    bracket layout depth opening closing (part :: parts) ++ rest
      = opening :: (layout.line (depth + 1) ++ (part ++
          (furtherParts (layout.line (depth + 1)) parts ++ (layout.line depth ++ closing :: rest)))) := by
  rw [bracket, furtherParts]
  simp only [List.cons_append, List.append_assoc, List.nil_append]

/-- A bracket starts with its opening character. -/
lemma bracket_starts (layout : Layout) (depth : ℕ) (opening closing : Char)
    (parts : List (List Char)) : ∃ r, bracket layout depth opening closing parts = opening :: r := by
  cases parts with
  | nil => exact ⟨_, rfl⟩
  | cons part parts => exact ⟨_, rfl⟩

/-! ### Lists -/

section Elements

variable {item : Reader α} {gap : List Char}

/-- After white space the end of a list is found. -/
lemma nextElement_close (hgap : IsGap gap) (first : Bool) (rest : List Char) :
    nextElement first (gap ++ ']' :: rest) = .ok (.close rest) := by
  rw [nextElement, skipSpace_gap_cons hgap rfl]
  exact if_pos rfl

/-- The text of the first element is found after white space. -/
lemma Reader.Spells.nextElement_first {a : α} {part : List Char} (h : item.Spells a part)
    (hgap : IsGap gap) (rest : List Char) :
    nextElement true (gap ++ (part ++ rest)) = .ok (.item (part ++ rest)) := by
  obtain ⟨c, r, rfl, hc, hne⟩ := h.starts
  rw [List.cons_append, nextElement, skipSpace_gap_cons hgap hc]
  dsimp only
  rw [if_neg hne]
  rfl

/-- The text of a further element is found after a comma, with white space around it. -/
lemma Reader.Spells.nextElement_comma {a : α} {part before : List Char} (h : item.Spells a part)
    (hbefore : IsGap before) (hgap : IsGap gap) (rest : List Char) :
    nextElement false (before ++ ',' :: (gap ++ (part ++ rest))) = .ok (.item (part ++ rest)) := by
  obtain ⟨c, r, rfl, hc, hne⟩ := h.starts
  rw [List.cons_append, nextElement, skipSpace_gap_cons hbefore rfl]
  dsimp only
  rw [if_neg (by decide), if_neg Bool.false_ne_true, if_pos rfl, skipSpace_gap_cons hgap hc]
  exact if_neg hne

/-- No elements stand before the end of a list. -/
lemma readElements_close {first : Bool} {cs rest : List Char}
    (hn : nextElement first cs = .ok (.close rest)) :
    readElements item first cs = .ok ([], rest) := by
  rw [readElements]
  split
  next e he => rw [hn] at he; cases he
  next rest' he => rw [hn] at he; cases he; rfl
  next r he => rw [hn] at he; cases he

/-- An element is followed by the others. -/
lemma readElements_item {first : Bool} {cs r rest : List Char} {a : α}
    (hn : nextElement first cs = .ok (.item r)) (hi : item.read r = .ok (a, rest)) :
    readElements item first cs
      = (readElements item false rest).map fun (as, rest) => (a :: as, rest) := by
  rw [readElements]
  split
  next e he => rw [hn] at he; cases he
  next rest' he => rw [hn] at he; cases he
  next r' he =>
    rw [hn] at he
    cases he
    split
    next e hr => rw [hi] at hr; cases hr
    next a' rest' hr => rw [hi] at hr; cases hr; rfl

/-- The elements after the first one are read up to the end of the list. -/
lemma readElements_further {as : List α} {parts : List (List Char)} {last : List Char}
    (h : List.Forall₂ item.Spells as parts) (hgap : IsGap gap) (hlast : IsGap last)
    (rest : List Char) :
    readElements item false (furtherParts gap parts ++ (last ++ ']' :: rest)) = .ok (as, rest) := by
  induction h with
  | nil => exact readElements_close (nextElement_close hlast false rest)
  | @cons a part as parts ha _ ih =>
    have hnext := ha.nextElement_comma isGap_nil hgap (furtherParts gap parts ++ (last ++ ']' :: rest))
    rw [List.nil_append] at hnext
    rw [furtherParts_cons, readElements_item hnext (ha.read_eq _), ih]
    rfl

/-- Texts of elements between brackets spell the list. -/
lemma spells_list {layout : Layout} (hl : layout.Blank) (depth : ℕ) {as : List α}
    {parts : List (List Char)} (h : List.Forall₂ item.Spells as parts) :
    (Reader.list item).Spells as (bracket layout depth '[' ']' parts) where
  starts := by
    obtain ⟨r, hr⟩ := bracket_starts layout depth '[' ']' parts
    exact ⟨'[', r, hr, rfl, by decide⟩
  reads {gap} hgap rest := by
    show readList item _ = _
    cases h with
    | nil =>
      rw [bracket_nil, readList, skipSpace_gap_cons hgap rfl]
      exact readElements_close (nextElement_close isGap_nil true rest)
    | @cons a part as parts ha has =>
      rw [bracket_cons, readList, skipSpace_gap_cons hgap rfl]
      show readElements item true _ = _
      rw [readElements_item (ha.nextElement_first (hl.line _) _) (ha.read_eq _),
        readElements_further has (hl.line _) (hl.line _)]
      rfl

end Elements

/-! ### Written lists -/

/-- The parts of a written list are its written elements. -/
lemma writeItems_map (layout : Layout) (depth : ℕ) (tree : α → Tree) (as : List α) :
    Tree.writeItems layout depth (as.map tree) = as.map fun a => (tree a).write layout depth := by
  induction as with
  | nil => rw [List.map_nil, List.map_nil, Tree.writeItems]
  | cons a as ih => rw [List.map_cons, List.map_cons, Tree.writeItems, ih]

/-- A written list spells its elements if each of them is spelled. -/
lemma spells_listOf {layout : Layout} (hl : layout.Blank) (depth : ℕ) {item : Reader α}
    {tree : α → Tree} (h : ∀ a, item.Spells a ((tree a).write layout (depth + 1))) (as : List α) :
    (Reader.list item).Spells as ((Tree.list (as.map tree)).write layout depth) := by
  rw [Tree.write, writeItems_map]
  refine spells_list hl depth ?_
  rw [List.forall₂_map_right_iff, List.forall₂_same]
  exact fun a _ => h a

/-- A written list of strings spells the strings. -/
lemma spells_ofStrings {layout : Layout} (hl : layout.Blank) (depth : ℕ) (strings : List String) :
    (Reader.list .string).Spells strings ((Tree.ofStrings strings).write layout depth) := by
  refine spells_listOf hl depth (fun s => ?_) strings
  rw [Tree.write]
  exact spells_string s

/-! ### Records -/

section Members

variable {σ : Type}

/-- A text gives a field a value: the name of the field, a colon, and a text that spells what the
field does to a record. -/
def Field.Spells (field : Field σ) (put : σ → σ) (part : List Char) : Prop :=
  ∃ gap text, IsGap gap ∧ field.reader.Spells put text ∧
    part = writeString field.name ++ ':' :: gap ++ text

/-- A written member spells what the value of its field does to a record. -/
lemma spells_member {layout : Layout} (hl : layout.Blank) (name : String) (f : α → σ → σ)
    {reader : Reader α} {a : α} {text : List Char} (h : reader.Spells a text) :
    (Field.mk name (reader.map f)).Spells (f a)
      (writeString name ++ ':' :: layout.afterColon ++ text) :=
  ⟨_, _, hl.afterColon, h.map f, rfl⟩

/-- The text of a field divides at the end of its key. -/
lemma Field.Spells.divides {field : Field σ} {put : σ → σ} {part : List Char}
    (h : field.Spells put part) :
    ∃ gap text, IsGap gap ∧ field.reader.Spells put text ∧
      ∀ rest, part ++ rest
        = '"' :: (field.name.toList.flatMap escape ++ '"' :: ':' :: (gap ++ (text ++ rest))) := by
  obtain ⟨gap, text, hgap, htext, rfl⟩ := h
  refine ⟨gap, text, hgap, htext, fun rest => ?_⟩
  rw [writeString]
  simp only [List.cons_append, List.append_assoc, List.nil_append]

variable {fields : List (Field σ)} {gap : List Char}

/-- The only field of a name is found by it. -/
lemma find_name_eq (hnodup : (fields.map (·.name)).Nodup) {field : Field σ} (h : field ∈ fields) :
    fields.find? (·.name == field.name) = some field := by
  induction fields with
  | nil => exact absurd h List.not_mem_nil
  | cons first fields ih =>
    rw [List.map_cons, List.nodup_cons] at hnodup
    rcases List.mem_cons.1 h with rfl | h
    · exact List.find?_cons_of_pos (beq_self_eq_true _)
    · have hne : first.name ≠ field.name := by
        intro heq
        exact hnodup.1 (heq ▸ List.mem_map_of_mem h)
      refine (List.find?_cons_of_neg ?_).trans (ih hnodup.2 h)
      rwa [beq_iff_eq]

/-- After white space the end of an object is found. -/
lemma nextMember_close (hgap : IsGap gap) (first : Bool) (rest : List Char) :
    nextMember first (gap ++ Char.ofNat 0x7D :: rest) = .ok (.close rest) := by
  rw [nextMember, skipSpace_gap_cons hgap (by decide)]
  exact if_pos (by decide)

/-- The key of the first member is found after white space. -/
lemma nextMember_first (hgap : IsGap gap) (r : List Char) :
    nextMember true (gap ++ '"' :: r) = .ok (.item r) := by
  rw [nextMember, skipSpace_gap_cons hgap rfl]
  rfl

/-- The key of a further member is found after a comma, with white space around it. -/
lemma nextMember_comma {before : List Char} (hbefore : IsGap before) (hgap : IsGap gap)
    (r : List Char) : nextMember false (before ++ ',' :: (gap ++ '"' :: r)) = .ok (.item r) := by
  rw [nextMember, skipSpace_gap_cons hbefore rfl]
  dsimp only
  rw [if_neg (by decide), if_neg Bool.false_ne_true, if_pos rfl, skipSpace_gap_cons hgap rfl]
  exact if_pos rfl

/-- A colon is passed over with the white space before it. -/
lemma skipColon_gap (hgap : IsGap gap) (r : List Char) : skipColon (gap ++ ':' :: r) = .ok r := by
  rw [skipColon, skipSpace_gap_cons hgap rfl]
  exact if_pos rfl

/-- The value of a field that was not given before changes the record. -/
lemma readValueOf_eq {field : Field σ} {name : String} {put : σ → σ} {before text : List Char}
    {state : Partial σ} (hfind : fields.find? (·.name == name) = some field)
    (hseen : name ∉ state.seen) (hbefore : IsGap before) (hgap : IsGap gap)
    (h : field.reader.Spells put text) (rest : List Char) :
    readValueOf fields state name (before ++ ':' :: (gap ++ (text ++ rest)))
      = .ok (⟨put state.record, name :: state.seen⟩, rest) := by
  rw [readValueOf, hfind]
  dsimp only
  rw [if_neg (by rwa [List.contains_iff_mem]), skipColon_gap hbefore]
  dsimp only
  rw [h.reads hgap]
  rfl

/-- A record is read from its opening brace. -/
lemma readRecord_brace (hgap : IsGap gap) (name : String) (record : σ) (r : List Char) :
    readRecord name fields record (gap ++ Char.ofNat 0x7B :: r)
      = readMembers fields true ⟨record, []⟩ r := by
  rw [readRecord, skipSpace_gap_cons hgap (by decide)]
  dsimp only
  rw [if_neg (by decide), if_pos (by decide)]

/-- No members stand before the end of an object. -/
lemma readMembers_close {first : Bool} {state : Partial σ} {cs rest : List Char}
    (hn : nextMember first cs = .ok (.close rest)) :
    readMembers fields first state cs = .ok (state.record, rest) := by
  rw [readMembers]
  split
  next e he => rw [hn] at he; cases he
  next rest' he => rw [hn] at he; cases he; rfl
  next r he => rw [hn] at he; cases he

/-- A member is followed by the others. -/
lemma readMembers_item {first : Bool} {state state' : Partial σ} {cs r r' rest key : List Char}
    (hn : nextMember first cs = .ok (.item r)) (hk : readString r = .ok (key, r'))
    (hv : readValueOf fields state (String.ofList key) r' = .ok (state', rest)) :
    readMembers fields first state cs = readMembers fields false state' rest := by
  rw [readMembers]
  split
  next e he => rw [hn] at he; cases he
  next rest' he => rw [hn] at he; cases he
  next r₀ he =>
    rw [hn] at he
    cases he
    split
    next e hr => rw [hk] at hr; cases hr
    next key' r₁ hr =>
      rw [hk] at hr
      cases hr
      split
      next e hs => rw [hv] at hs; cases hs
      next state₁ rest₁ hs => rw [hv] at hs; cases hs; rfl

/-- A member of a record: a field, and what its value does to the record. -/
abbrev Member (σ : Type) := Field σ × (σ → σ)

/-- The record after some members. -/
def putAll (members : List (Member σ)) (record : σ) : σ :=
  members.foldl (fun record member => member.2 record) record

/-- Texts of members that are fields of a record, none of them twice or given before. -/
structure Members (fields : List (Field σ)) (seen : List String) (members : List (Member σ))
    (parts : List (List Char)) : Prop where
  found : ∀ member ∈ members, fields.find? (·.name == member.1.name) = some member.1
  nodup : (members.map (·.1.name)).Nodup
  fresh : ∀ member ∈ members, member.1.name ∉ seen
  spelled : List.Forall₂ (fun member part => member.1.Spells member.2 part) members parts

/-- Fields of a record with different names, none of them given before. -/
lemma Members.of_nodup (hnodup : (fields.map (·.name)).Nodup) {members : List (Member σ)}
    {parts : List (List Char)} (hfields : ∀ member ∈ members, member.1 ∈ fields)
    (hmembers : (members.map (·.1.name)).Nodup)
    (h : List.Forall₂ (fun member part => member.1.Spells member.2 part) members parts) :
    Members fields [] members parts where
  found member hmember := find_name_eq hnodup (hfields member hmember)
  nodup := hmembers
  fresh _ _ := List.not_mem_nil
  spelled := h

/-- The members after the first one are new once it was given. -/
lemma Members.tail {seen : List String} {member : Member σ} {members : List (Member σ)}
    {part : List Char} {parts : List (List Char)}
    (h : Members fields seen (member :: members) (part :: parts)) :
    Members fields (member.1.name :: seen) members parts := by
  have hnodup := h.nodup
  rw [List.map_cons, List.nodup_cons] at hnodup
  refine ⟨fun m hm => h.found m (List.mem_cons_of_mem _ hm), hnodup.2, fun m hm hmem => ?_,
    (List.forall₂_cons.1 h.spelled).2⟩
  rcases List.mem_cons.1 hmem with heq | hmem
  · exact hnodup.1 (heq ▸ List.mem_map_of_mem hm)
  · exact h.fresh m (List.mem_cons_of_mem _ hm) hmem

/-- A member is read with its value, wherever its key is found. -/
lemma Members.readMembers_cons {member : Member σ} {members : List (Member σ)} {part : List Char}
    {parts : List (List Char)} {state : Partial σ} {first : Bool} {rest cs : List Char}
    (h : Members fields state.seen (member :: members) (part :: parts))
    (hn : ∀ r, part ++ rest = '"' :: r → nextMember first cs = .ok (.item r)) :
    readMembers fields first state cs
      = readMembers fields false ⟨member.2 state.record, member.1.name :: state.seen⟩ rest := by
  obtain ⟨gap, text, hgap, htext, hpart⟩ := (List.forall₂_cons.1 h.spelled).1.divides
  refine readMembers_item (hn _ (hpart rest)) (readString_flatMap_escape _ _) ?_
  rw [String.ofList_toList]
  exact readValueOf_eq (h.found _ List.mem_cons_self) (h.fresh _ List.mem_cons_self) isGap_nil hgap
    htext rest

/-- The members after the first one are read up to the end of the object. -/
lemma readMembers_further {members : List (Member σ)} {parts : List (List Char)}
    {state : Partial σ} {last : List Char} (h : Members fields state.seen members parts)
    (hgap : IsGap gap) (hlast : IsGap last) (rest : List Char) :
    readMembers fields false state (furtherParts gap parts ++ (last ++ Char.ofNat 0x7D :: rest))
      = .ok (putAll members state.record, rest) := by
  induction members generalizing parts state with
  | nil =>
    rw [List.forall₂_nil_left_iff.1 h.spelled]
    exact readMembers_close (nextMember_close hlast false rest)
  | cons member members ih =>
    obtain ⟨part, parts, -, -, rfl⟩ := List.forall₂_cons_left_iff.1 h.spelled
    rw [furtherParts_cons, h.readMembers_cons fun r hr => hr ▸ nextMember_comma isGap_nil hgap r]
    exact ih h.tail

/-- Texts of members between braces spell the record that the members make. -/
lemma spells_record {layout : Layout} (hl : layout.Blank) (depth : ℕ) (name : String) (record : σ)
    {members : List (Member σ)} {parts : List (List Char)} (h : Members fields [] members parts) :
    (Reader.record name fields record).Spells (putAll members record)
      (bracket layout depth (Char.ofNat 0x7B) (Char.ofNat 0x7D) parts) where
  starts := by
    obtain ⟨r, hr⟩ := bracket_starts layout depth (Char.ofNat 0x7B) (Char.ofNat 0x7D) parts
    exact ⟨_, r, hr, by decide, by decide⟩
  reads {gap} hgap rest := by
    show readRecord name fields record _ = _
    cases members with
    | nil =>
      rw [List.forall₂_nil_left_iff.1 h.spelled, bracket_nil, readRecord_brace hgap]
      exact readMembers_close (nextMember_close isGap_nil true rest)
    | cons member members =>
      obtain ⟨part, parts, -, -, rfl⟩ := List.forall₂_cons_left_iff.1 h.spelled
      have hstart : Members fields (Partial.mk record []).seen (member :: members)
          (part :: parts) := h
      rw [bracket_cons, readRecord_brace hgap,
        hstart.readMembers_cons fun r hr => hr ▸ nextMember_first (hl.line _) r]
      exact readMembers_further hstart.tail (hl.line _) (hl.line _) rest

end Members

end Screening.Json
