/-
Objects of the grammar, and what is read of them.

A string of the grammar stands for the characters that its escapes denote, a list of strings for the
strings, and an object for its members, whose names are strings. A record is read from every object
of the grammar, in any order of the members and with white space anywhere: members that are no fields
are passed over, and a field that is given twice is an error.

* `IsStringText`, `IsListOf`, `IsObjectOf`: strings, lists of strings and objects.
* `spells_quoted`, `spells_listOfStrings`: they are read as what they stand for.
* `parse_of_isDocument`, `exists_parse_error_of_repeated`: records that are read from whole texts.
-/
import Mathlib.Data.List.Nodup
import Screening.Proofs.Json.Agreement

namespace Screening.Json

/-! ### Strings, lists and objects -/

/-- The numbers of a surrogate pair, and the character that they write together. -/
structure IsPair (m n : ℕ) (c : Char) : Prop where
  leading : 0xD800 ≤ m ∧ m ≤ 0xDBFF
  trailing : 0xDC00 ≤ n ∧ n ≤ 0xDFFF
  toNat_eq : c.toNat = 0x10000 + (m - 0xD800) * 0x400 + (n - 0xDC00)

/-- The text of a string between its quotes, and the characters that it stands for. Half of a
surrogate pair stands for none. -/
inductive IsStringText : List Char → List Char → Prop where
  | nil : IsStringText [] []
  | plain {c : Char} {text cs : List Char} :
    IsPlain c → IsStringText text cs → IsStringText (c :: text) (c :: cs)
  | short {letter c : Char} {text cs : List Char} :
    (letter, c) ∈ shortEscapes → IsStringText text cs →
      IsStringText ('\\' :: letter :: text) (c :: cs)
  | number {digits text cs : List Char} {c : Char} :
    IsHex digits c.toNat → IsStringText text cs →
      IsStringText ('\\' :: 'u' :: (digits ++ text)) (c :: cs)
  | pair {high low text cs : List Char} {m n : ℕ} {c : Char} :
    IsHex high m → IsHex low n → IsPair m n c → IsStringText text cs →
      IsStringText ('\\' :: 'u' :: (high ++ '\\' :: 'u' :: (low ++ text))) (c :: cs)

/-- Characters that are not escaped stand for themselves. -/
lemma isStringText_of_all {cs : List Char} (h : cs.all (decide <| IsPlain ·) = true) :
    IsStringText cs cs := by
  induction cs with
  | nil => exact .nil
  | cons c cs ih =>
    rw [List.all_cons, Bool.and_eq_true, decide_eq_true_eq] at h
    exact .plain h.1 (ih h.2)

/-- A text that stands for characters is that of a string. -/
lemma IsStringText.isStringForm {text cs : List Char} (h : IsStringText text cs) :
    IsStringForm text := by
  induction h with
  | nil => exact .nil
  | plain hc _ ih => exact .plain hc ih
  | short hmem _ ih => exact .short hmem ih
  | number hdigits _ ih => exact .number hdigits ih
  | pair hhigh hlow _ _ ih => exact .number hhigh (.number hlow ih)

/-- A list of the grammar whose elements are strings. -/
def IsListOf (strings : List String) (value : List Char) : Prop :=
  ∃ (parts : List Padded) (inner : List Char),
    List.Forall₂ (fun s part => ∃ text, IsStringText text s.toList ∧ part.text = quoted text) strings
      parts ∧
    IsInner (parts.map Padded.all) inner ∧ value = '[' :: (inner ++ [']'])

/-- A list of strings is a value of the grammar. -/
lemma IsListOf.isValue {strings : List String} {value : List Char} (h : IsListOf strings value) :
    IsValue value := by
  obtain ⟨parts, inner, hstrings, hinner, rfl⟩ := h
  have hvalues : ∀ part ∈ parts, IsValue part.text := by
    clear hinner
    induction hstrings with
    | nil => exact fun _ hpart => absurd hpart List.not_mem_nil
    | cons hstring _ ih =>
      obtain ⟨text, htext, hquoted⟩ := hstring
      rw [List.forall_mem_cons, hquoted]
      exact ⟨.string htext.isStringForm, ih⟩
  exact .list hinner hvalues

/-- A member of an object: its name, and the text of its value. -/
abbrev NamedValue := String × List Char

/-- The text of a member whose value is any of the grammar. -/
structure IsMember (member : NamedValue) (m : MemberText) : Prop where
  key : IsStringText m.key.text member.1.toList
  text_eq : m.value.text = member.2
  value : IsValue member.2

/-- An object of the grammar. -/
def IsObjectOf (members : List NamedValue) (text : List Char) : Prop :=
  ∃ (texts : List MemberText) (inner : List Char), List.Forall₂ IsMember members texts ∧
    IsInner (texts.map MemberText.all) inner ∧
    text = Char.ofNat 0x7B :: (inner ++ [Char.ofNat 0x7D])

/-- A whole text: an object with white space around it. -/
def IsDocument (members : List NamedValue) (text : List Char) : Prop :=
  ∃ whole : Padded, IsObjectOf members whole.text ∧ text = whole.all

/-! ### Strings are read -/

variable {text cs rest gap : List Char}

/-- No number of a character is half of a surrogate pair. -/
lemma not_surrogate (c : Char) : isTrailing c.toNat = false ∧ isLeading c.toNat = false := by
  have hvalid : c.toNat < 0xD800 ∨ 0xDFFF < c.toNat ∧ c.toNat < 0x110000 := c.valid
  rw [isTrailing, isLeading, Bool.and_eq_false_iff, Bool.and_eq_false_iff]
  simp only [decide_eq_false_iff_not]
  omega

/-- The numbers of a surrogate pair are read as its character. -/
lemma readEscape_pair {high low : List Char} {m n : ℕ} {c : Char} (hhigh : IsHex high m)
    (hlow : IsHex low n) (hpair : IsPair m n c) (rest : List Char) :
    readEscape ('u' :: (high ++ '\\' :: 'u' :: (low ++ rest))) = .ok (c, rest) := by
  obtain ⟨⟨hm, hm'⟩, ⟨hn, hn'⟩, hvalue⟩ := hpair
  have htrailing : isTrailing m = false := by
    rw [isTrailing, Bool.and_eq_false_iff, decide_eq_false_iff_not]
    exact .inl (by omega)
  have hleading : isLeading m = true := by
    rw [isLeading, Bool.and_eq_true, decide_eq_true_eq, decide_eq_true_eq]
    exact ⟨hm, hm'⟩
  have hsecond : isTrailing n = true := by
    rw [isTrailing, Bool.and_eq_true, decide_eq_true_eq, decide_eq_true_eq]
    exact ⟨hn, hn'⟩
  have hread : readTrailing m ('\\' :: 'u' :: (low ++ rest)) = .ok (c, rest) := by
    rw [readTrailing, hlow.readHex]
    dsimp only
    rw [if_pos hsecond, ← hvalue, Char.ofNat_toNat]
  rw [readEscape, hhigh.readHex]
  dsimp only
  rw [htrailing, hleading, hread]
  rfl

/-- A string is read as what it stands for. -/
lemma readString_of_isStringText (h : IsStringText text cs) (rest : List Char) :
    readString (text ++ '"' :: rest) = .ok (cs, rest) := by
  induction h with
  | nil => rw [List.nil_append, readString]
  | plain hc _ ih =>
    rw [List.cons_append, readString_cons hc.not_quote hc.not_backslash (Nat.not_lt.2 hc.not_control),
      ih]
    rfl
  | @short letter c text cs hmem _ ih =>
    obtain ⟨hescaped, hletter⟩ := escaped?_of_mem hmem
    have hread : readEscape (letter :: (text ++ '"' :: rest)) = .ok (c, text ++ '"' :: rest) := by
      rw [readEscape, hescaped]
      exact hletter
    rw [List.cons_append, List.cons_append, readString_of_readEscape hread, ih]
    rfl
  | @number digits text cs c hdigits _ ih =>
    obtain ⟨htrailing, hleading⟩ := not_surrogate c
    have hread : readEscape ('u' :: (digits ++ (text ++ '"' :: rest)))
        = .ok (c, text ++ '"' :: rest) := by
      rw [readEscape, hdigits.readHex]
      dsimp only
      rw [htrailing, hleading, Char.ofNat_toNat]
      rfl
    rw [List.cons_append, List.cons_append, List.append_assoc, readString_of_readEscape hread, ih]
    rfl
  | @pair high low text cs m n c hhigh hlow hpair _ ih =>
    have hread := readEscape_pair hhigh hlow hpair (text ++ '"' :: rest)
    simp only [List.cons_append, List.append_assoc]
    rw [readString_of_readEscape hread, ih]
    rfl

/-- A string between quotes spells what it stands for. -/
lemma spells_quoted {s : String} (h : IsStringText text s.toList) :
    Reader.string.Spells s (quoted text) :=
  spells_quoted_of_readString (readString_of_isStringText h)

/-! ### Lists are read -/

section Elements

variable {α : Type} {item : Reader α}

/-- The further elements of a list are read up to its end, with white space around each. -/
lemma readElements_behindCommas {as : List α} {parts : List Padded}
    (h : List.Forall₂ (fun a part => item.Spells a part.text) as parts) (hgap : IsGap gap)
    (rest : List Char) :
    readElements item false (gap ++ (behindCommas (parts.map Padded.all) ++ ']' :: rest))
      = .ok (as, rest) := by
  induction h generalizing gap with
  | nil => exact readElements_close (nextElement_close hgap false rest)
  | @cons a part as parts ha _ ih =>
    rw [List.map_cons, behindCommas_cons, part.all_append,
      readElements_item (ha.nextElement_comma hgap part.isGap_before _) (ha.read_eq _),
      ih part.isGap_after]
    rfl

/-- A list of the grammar spells what its elements do. -/
lemma spells_inner {as : List α} {parts : List Padded} {inner : List Char}
    (hinner : IsInner (parts.map Padded.all) inner)
    (h : List.Forall₂ (fun a part => item.Spells a part.text) as parts) :
    (Reader.list item).Spells as ('[' :: (inner ++ [']'])) where
  starts := ⟨'[', _, rfl, rfl, by decide⟩
  reads {gap} hgap rest := by
    show readList item _ = _
    rw [List.cons_append, List.append_assoc, List.singleton_append, readList,
      skipSpace_gap_cons hgap rfl]
    show readElements item true (inner ++ ']' :: rest) = _
    cases h with
    | nil => exact readElements_close (nextElement_close hinner true rest)
    | @cons a part as parts ha has =>
      obtain rfl : inner = part.all ++ behindCommas (parts.map Padded.all) := hinner
      rw [List.append_assoc, part.all_append,
        readElements_item (ha.nextElement_first part.isGap_before _) (ha.read_eq _),
        readElements_behindCommas has part.isGap_after]
      rfl

/-- A list of strings is read as the strings. -/
lemma spells_listOfStrings {strings : List String} {value : List Char}
    (h : IsListOf strings value) : (Reader.list .string).Spells strings value := by
  obtain ⟨parts, inner, hstrings, hinner, rfl⟩ := h
  refine spells_inner hinner (hstrings.imp ?_)
  rintro s part ⟨text, htext, hpart⟩
  rw [hpart]
  exact spells_quoted htext

end Elements

/-! ### Members are read -/

section Members

variable {σ : Type} {fields : List (Field σ)} {seen : List String} {member : NamedValue}
  {members : List NamedValue} {m : MemberText} {texts : List MemberText}

/-- Whether a name is that of a field. -/
def isField (fields : List (Field σ)) (name : String) : Bool :=
  (fields.find? (·.name == name)).isSome

lemma isField_iff {name : String} :
    isField fields name = true ↔ ∃ field ∈ fields, field.name = name := by
  simp only [isField, List.find?_isSome, beq_iff_eq]

/-- The names of members that are fields. -/
def fieldNames (fields : List (Field σ)) (members : List NamedValue) : List String :=
  (members.map Prod.fst).filter (isField fields)

/-- Members of which no field is given twice, or again. -/
structure Fresh (fields : List (Field σ)) (seen : List String) (members : List NamedValue) :
    Prop where
  nodup : (fieldNames fields members).Nodup
  not_seen : ∀ name ∈ fieldNames fields members, name ∉ seen

lemma fresh_nil (fields : List (Field σ)) (seen : List String) : Fresh fields seen [] where
  nodup := List.nodup_nil
  not_seen _ h := absurd h List.not_mem_nil

/-- A member that is no field may be given again. -/
lemma fresh_cons_unknown (h : fields.find? (·.name == member.1) = none) :
    Fresh fields seen (member :: members) ↔ Fresh fields seen members := by
  have hnames : fieldNames fields (member :: members) = fieldNames fields members := by
    rw [fieldNames, List.map_cons, List.filter_cons_of_neg]
    · rfl
    · rw [isField, h]
      exact Bool.false_ne_true
  exact ⟨fun hfresh => ⟨hnames ▸ hfresh.nodup, hnames ▸ hfresh.not_seen⟩,
    fun hfresh => ⟨hnames.symm ▸ hfresh.nodup, hnames.symm ▸ hfresh.not_seen⟩⟩

/-- A field may not be given again. -/
lemma fresh_cons_field {field : Field σ} (h : fields.find? (·.name == member.1) = some field) :
    Fresh fields seen (member :: members) ↔
      member.1 ∉ seen ∧ Fresh fields (member.1 :: seen) members := by
  have hnames : fieldNames fields (member :: members) = member.1 :: fieldNames fields members := by
    rw [fieldNames, List.map_cons, List.filter_cons_of_pos]
    · rfl
    · rw [isField, h]
      rfl
  constructor
  · rintro ⟨hnodup, hseen⟩
    rw [hnames, List.nodup_cons] at hnodup
    rw [hnames, List.forall_mem_cons] at hseen
    refine ⟨hseen.1, hnodup.2, fun name hname hmem => ?_⟩
    rcases List.mem_cons.1 hmem with rfl | hmem
    · exact hnodup.1 hname
    · exact hseen.2 name hname hmem
  · rintro ⟨hmember, hnodup, hseen⟩
    refine ⟨?_, ?_⟩
    · rw [hnames, List.nodup_cons]
      exact ⟨fun hmem => hseen _ hmem List.mem_cons_self, hnodup⟩
    · rw [hnames, List.forall_mem_cons]
      exact ⟨hmember, fun name hname hmem => hseen name hname (List.mem_cons_of_mem _ hmem)⟩

/-- What a member does to a record: nothing if it is no field, else what its value spells. -/
inductive Does (fields : List (Field σ)) (member : NamedValue) : (σ → σ) → Prop where
  | unknown : fields.find? (·.name == member.1) = none → Does fields member id
  | field {field : Field σ} {put : σ → σ} : fields.find? (·.name == member.1) = some field →
    field.reader.Spells put member.2 → Does fields member put

/-- The text of a member behind its key, with what follows the member. -/
def MemberText.behindKey (m : MemberText) (tail : List Char) : List Char :=
  m.key.after ++ ':' :: (m.value.before ++ (m.value.text ++ tail))

/-- What follows the value of a member, up to the end of the object. -/
def tailOf (m : MemberText) (texts : List MemberText) (rest : List Char) : List Char :=
  m.value.after ++ (behindCommas (texts.map MemberText.all) ++ Char.ofNat 0x7D :: rest)

lemma stops_tailOf (m : MemberText) (texts : List MemberText) (rest : List Char) :
    Stops (tailOf m texts rest) :=
  stops_gap m.value.isGap_after (stops_behindCommas _ (by decide) _ rest)

/-- Members are next in a text, and then the end of their object. -/
def Follow (first : Bool) (cs : List Char) (texts : List MemberText) (rest : List Char) : Prop :=
  match texts with
  | [] => nextMember first cs = .ok (.close rest)
  | m :: texts =>
    nextMember first cs = .ok (.item (m.key.text ++ '"' :: m.behindKey (tailOf m texts rest)))

/-- Members follow the opening brace of their object. -/
lemma follow_inner {inner : List Char} (h : IsInner (texts.map MemberText.all) inner)
    (rest : List Char) : Follow true (inner ++ Char.ofNat 0x7D :: rest) texts rest := by
  cases texts with
  | nil => exact nextMember_close h true rest
  | cons m texts =>
    obtain rfl : inner = m.all ++ behindCommas (texts.map MemberText.all) := h
    rw [List.append_assoc, m.all_append]
    exact nextMember_first m.key.isGap_before _

/-- Further members follow the value of a member. -/
lemma follow_tailOf (m : MemberText) (texts : List MemberText) (rest : List Char) :
    Follow false (tailOf m texts rest) texts rest := by
  rw [tailOf]
  cases texts with
  | nil => exact nextMember_close m.value.isGap_after false rest
  | cons m' texts =>
    rw [List.map_cons, behindCommas_cons, m'.all_append]
    exact nextMember_comma m.value.isGap_after m'.key.isGap_before _

/-- The value of a member that is no field is passed over. -/
lemma readValueOf_unknown (hfind : fields.find? (·.name == member.1) = none)
    (hm : IsMember member m) (state : Partial σ) {tail : List Char} (htail : Stops tail) :
    readValueOf fields state member.1 (m.behindKey tail) = .ok (state, tail) := by
  rw [readValueOf, hfind]
  dsimp only
  rw [MemberText.behindKey, skipColon_gap m.key.isGap_after]
  dsimp only
  rw [skipValue, hm.text_eq, hm.value.skippable.skips m.value.isGap_before htail, skipOut_nil]
  rfl

/-- A member that is read is followed by the others. -/
lemma readMembers_member {first : Bool} {state state' : Partial σ} (hm : IsMember member m)
    (h : Follow first cs (m :: texts) rest)
    (hv : readValueOf fields state member.1 (m.behindKey (tailOf m texts rest))
      = .ok (state', tailOf m texts rest)) :
    readMembers fields first state cs
      = readMembers fields false state' (tailOf m texts rest) := by
  refine readMembers_item h (readString_of_isStringText hm.key _) ?_
  rwa [String.ofList_toList]

/-- **Members are read in any order.** If no field is given twice, all members are read up to the end
of their object, and each field does to the record what its value spells. -/
theorem readMembers_of_follow {first : Bool} {state : Partial σ} {puts : List (σ → σ)}
    (hmembers : List.Forall₂ IsMember members texts)
    (hdoes : List.Forall₂ (Does fields) members puts) (hfresh : Fresh fields state.seen members)
    (h : Follow first cs texts rest) :
    readMembers fields first state cs
      = .ok (puts.foldl (fun record put => put record) state.record, rest) := by
  induction hmembers generalizing first cs state puts with
  | nil =>
    cases hdoes
    exact readMembers_close h
  | @cons member m members texts hm _ ih =>
    obtain ⟨put, puts, hput, hputs, rfl⟩ := List.forall₂_cons_left_iff.1 hdoes
    rw [List.foldl_cons]
    cases hput with
    | unknown hfind =>
      rw [readMembers_member hm h (readValueOf_unknown hfind hm state (stops_tailOf m texts rest))]
      exact ih hputs ((fresh_cons_unknown hfind).1 hfresh) (follow_tailOf m texts rest)
    | @field field _ hfind hspells =>
      obtain ⟨hseen, hfresh⟩ := (fresh_cons_field hfind).1 hfresh
      rw [← hm.text_eq] at hspells
      rw [readMembers_member hm h (readValueOf_eq hfind hseen m.key.isGap_after m.value.isGap_before
        hspells _)]
      exact ih hputs hfresh (follow_tailOf m texts rest)

/-- A fault of a value ends the reading of members. -/
lemma readMembers_error {first : Bool} {state : Partial σ} (hm : IsMember member m)
    (h : Follow first cs (m :: texts) rest)
    (hv : ∃ e, readValueOf fields state member.1 (m.behindKey (tailOf m texts rest)) = .error e) :
    ∃ e, readMembers fields first state cs = .error e := by
  obtain ⟨e, he⟩ := hv
  have hkey := readString_of_isStringText hm.key (m.behindKey (tailOf m texts rest))
  rw [readMembers]
  split
  next e hn => exact ⟨e, rfl⟩
  next rest' hn => cases h.symm.trans hn
  next r hn =>
    cases h.symm.trans hn
    split
    next e hr => exact ⟨e, rfl⟩
    next key r' hr =>
      cases hkey.symm.trans hr
      split
      next e hs => exact ⟨e, rfl⟩
      next state' rest' hs =>
        rw [String.ofList_toList, he] at hs
        cases hs

/-- A field that was given before is a fault. -/
lemma readValueOf_again {field : Field σ} (hfind : fields.find? (·.name == member.1) = some field)
    {state : Partial σ} (hseen : member.1 ∈ state.seen) (cs : List Char) :
    readValueOf fields state member.1 cs = .error (repeatedKey member.1 cs) := by
  rw [readValueOf, hfind]
  exact if_pos (List.contains_iff_mem.2 hseen)

/-- The value of a field that was not given before is a fault, or is taken exactly. -/
lemma readValueOf_cases {field : Field σ} (hfind : fields.find? (·.name == member.1) = some field)
    (hreader : field.reader.TakesValues) {state : Partial σ} (hseen : member.1 ∉ state.seen)
    (hm : IsMember member m) {tail : List Char} (htail : Stops tail) :
    (∃ e, readValueOf fields state member.1 (m.behindKey tail) = .error e) ∨
      ∃ put : σ → σ, readValueOf fields state member.1 (m.behindKey tail)
        = .ok (⟨put state.record, member.1 :: state.seen⟩, tail) := by
  rw [readValueOf, hfind]
  dsimp only
  rw [if_neg (by rwa [List.contains_iff_mem]), MemberText.behindKey,
    skipColon_gap m.key.isGap_after]
  dsimp only
  cases hread : field.reader.read (m.value.before ++ (m.value.text ++ tail)) with
  | error e => exact .inl ⟨e, rfl⟩
  | ok p =>
    obtain ⟨put, rest'⟩ := p
    rw [hm.text_eq] at hread
    obtain rfl := hreader.rest_eq hm.value m.value.isGap_before htail hread
    exact .inr ⟨put, rfl⟩

/-- **A field that is given twice is an error**, whatever the values of the members are. -/
theorem readMembers_repeated (hreaders : ∀ field ∈ fields, field.reader.TakesValues) {first : Bool}
    {state : Partial σ} (hmembers : List.Forall₂ IsMember members texts)
    (hrepeated : ¬Fresh fields state.seen members) (h : Follow first cs texts rest) :
    ∃ e, readMembers fields first state cs = .error e := by
  induction hmembers generalizing first cs state with
  | nil => exact absurd (fresh_nil fields state.seen) hrepeated
  | @cons member m members texts hm _ ih =>
    have htail := stops_tailOf m texts rest
    cases hfind : fields.find? (·.name == member.1) with
    | none =>
      rw [fresh_cons_unknown hfind] at hrepeated
      rw [readMembers_member hm h (readValueOf_unknown hfind hm state htail)]
      exact ih hrepeated (follow_tailOf m texts rest)
    | some field =>
      by_cases hseen : member.1 ∈ state.seen
      · exact readMembers_error hm h ⟨_, readValueOf_again hfind hseen _⟩
      · rcases readValueOf_cases hfind (hreaders field (List.mem_of_find?_eq_some hfind)) hseen hm
          htail with herror | ⟨put, hput⟩
        · exact readMembers_error hm h herror
        · rw [readMembers_member hm h hput]
          refine ih (fun hfresh => hrepeated ?_) (follow_tailOf m texts rest)
          exact (fresh_cons_field hfind).2 ⟨hseen, hfresh⟩

/-! ### Records are read -/

/-- No field is given twice iff the name of each stands at most once before a value. -/
lemma fresh_iff_count_le_one (fields : List (Field σ)) (members : List NamedValue) :
    Fresh fields [] members ↔
      ∀ field ∈ fields, (members.map Prod.fst).count field.name ≤ 1 := by
  have hnodup : Fresh fields [] members ↔ (fieldNames fields members).Nodup :=
    ⟨fun h => h.nodup, fun h => ⟨h, fun _ _ => List.not_mem_nil⟩⟩
  rw [hnodup, List.nodup_iff_count_le_one]
  constructor
  · intro h field hfield
    rw [← List.count_filter (isField_iff.2 ⟨field, hfield, rfl⟩)]
    exact h field.name
  · intro h name
    cases hname : isField fields name with
    | false =>
      have hnone : name ∉ fieldNames fields members := fun hmem =>
        Bool.false_ne_true (hname.symm.trans (List.mem_filter.1 hmem).2)
      rw [List.count_eq_zero_of_not_mem hnone]
      exact Nat.zero_le 1
    | true =>
      obtain ⟨field, hfield, rfl⟩ := isField_iff.1 hname
      rw [fieldNames, List.count_filter hname]
      exact h field hfield

variable {name : String} {record : σ} {document : String}

/-- The members of a whole text are read, and then nothing but white space follows. -/
lemma exists_follow_of_isDocument (name : String) (fields : List (Field σ)) (record : σ)
    (hdocument : IsDocument members cs) : ∃ texts inner after, List.Forall₂ IsMember members texts ∧
      Follow true inner texts after ∧ skipSpace after = [] ∧
      (Reader.record name fields record).read cs = readMembers fields true ⟨record, []⟩ inner := by
  obtain ⟨whole, ⟨texts, inner, hmembers, hinner, htext⟩, rfl⟩ := hdocument
  refine ⟨texts, _, whole.after, hmembers, follow_inner hinner _, ?_, ?_⟩
  · exact List.dropWhile_eq_nil_iff.2 whole.isGap_after
  · show readRecord name fields record _ = _
    rw [Padded.all, htext, List.cons_append, List.append_assoc, List.singleton_append,
      readRecord_brace whole.isGap_before]

/-- **A record is read from a whole text** that gives no field twice: each field does to the record
what its value spells, and other members do nothing. -/
theorem parse_of_isDocument (hdocument : IsDocument members document.toList) {puts : List (σ → σ)}
    (hdoes : List.Forall₂ (Does fields) members puts)
    (honce : ∀ field ∈ fields, (members.map Prod.fst).count field.name ≤ 1) :
    (Reader.record name fields record).parse document
      = .ok (puts.foldl (fun record put => put record) record) := by
  obtain ⟨texts, inner, after, hmembers, hfollow, hafter, hread⟩ :=
    exists_follow_of_isDocument name fields record hdocument
  have hfresh := (fresh_iff_count_le_one fields members).2 honce
  rw [readMembers_of_follow hmembers hdoes hfresh hfollow] at hread
  rw [Reader.parse, Reader.readAll, hread]
  dsimp only
  rw [hafter]
  rfl

/-- **A whole text that gives a field twice is no record.** -/
theorem exists_parse_error_of_repeated (hdocument : IsDocument members document.toList)
    (hreaders : ∀ field ∈ fields, field.reader.TakesValues) {field : Field σ} (hfield : field ∈ fields)
    (htwice : 2 ≤ (members.map Prod.fst).count field.name) :
    ∃ e, (Reader.record name fields record).parse document = .error e := by
  obtain ⟨texts, inner, after, hmembers, hfollow, -, hread⟩ :=
    exists_follow_of_isDocument name fields record hdocument
  have hrepeated : ¬Fresh fields (Partial.mk record []).seen members := fun hfresh =>
    absurd ((fresh_iff_count_le_one fields members).1 hfresh field hfield) (Nat.not_le.2 htwice)
  obtain ⟨fault, hfault⟩ := readMembers_repeated hreaders hmembers hrepeated hfollow
  rw [hfault] at hread
  refine ⟨fault.locate document.toList, ?_⟩
  rw [Reader.parse, Reader.readAll, hread]
  rfl

end Members

end Screening.Json
