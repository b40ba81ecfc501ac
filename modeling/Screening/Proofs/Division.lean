/-
The fields of a search text.

A key divides a text into its fields and the gaps around them. A field is the key, ASCII letters in
either case, an equals sign, a value without a bar, and a bar; and nowhere inside of a gap does a field
begin. There is exactly one such division, whatever the key is made of: a gap ends where a field begins
for the first time, and the beginning of a field settles its end. The values of the fields are those
that the scan finds.

* `Field.Begins`, `Field.Divides`: where a field begins, and the divisions of a text.
* `Field.value?_eq_some_iff`: the scan finds a value exactly where a field begins.
* `Field.Divides.unique`, `Field.exists_divides`: there is one division.
* `Field.Divides.values_eq`: the values of its fields.
* `Field.extract_of_division`: all of this for the extraction from a text.
-/
import Mathlib.Data.List.Forall2
import Screening.Proofs.Pieces

namespace Screening.Field

/-! ### Fields -/

/-- Two characters that are the same, or one ASCII letter in its two cases. -/
def SameLetter (k c : Char) : Prop :=
  c = k ∨ (65 ≤ k.toNat ∧ k.toNat ≤ 90 ∧ c.toNat = k.toNat + 32) ∨
    (65 ≤ c.toNat ∧ c.toNat ≤ 90 ∧ k.toNat = c.toNat + 32)

/-- A field that was found: the gap before it, the key as the text writes it, and the value. -/
@[ext]
structure Found where
  gap : List Char
  key : List Char
  value : List Char

/-- The field itself, up to its bar. -/
def Found.text (field : Found) : List Char :=
  field.key ++ '=' :: (field.value ++ ['|'])

/-- A field has the key in some case, and no bar in its value. -/
structure Found.Has (field : Found) (key : List Char) : Prop where
  key : List.Forall₂ SameLetter key field.key
  value : '|' ∉ field.value

/-- A text begins with a field of a key. -/
def Begins (key text : List Char) : Prop :=
  ∃ field : Found, field.Has key ∧ field.text <+: text

/-- No field begins at a position inside of a gap. -/
def Barren (key gap rest : List Char) : Prop :=
  ∀ front back, gap = front ++ back → back ≠ [] → ¬Begins key (back ++ rest)

/-- The divisions of a text into fields with the gaps before them and a last gap. -/
inductive Divides (key : List Char) : List Char → List Found → List Char → Prop where
  | last {gap : List Char} (barren : Barren key gap []) : Divides key gap [] gap
  | field {field : Found} {rest last : List Char} {fields : List Found}
      (barren : Barren key field.gap (field.text ++ rest)) (has : field.Has key)
      (divides : Divides key rest fields last) :
      Divides key (field.gap ++ (field.text ++ rest)) (field :: fields) last

/-! ### What the scan finds at a position -/

variable {key text rest gap : List Char}

/-- The comparison of lower cases is the one of ASCII letters. -/
lemma toLower_eq_toLower_iff {k c : Char} : c.toLower = k.toLower ↔ SameLetter k c := by
  rw [← Char.toNat_inj, Text.toNat_toLower, Text.toNat_toLower, SameLetter, ← Char.toNat_inj]
  split_ifs <;> omega

/-- After a key and an equals sign comes what follows the characters that stand for them. -/
lemma afterKey?_eq_some_iff {r : List Char} :
    afterKey? (key ++ ['=']) text = some r ↔
      ∃ written, List.Forall₂ SameLetter key written ∧ text = written ++ '=' :: r := by
  induction key generalizing text with
  | nil =>
    cases text with
    | nil => simp [afterKey?]
    | cons c cs =>
      have hc : c.toLower = '=' ↔ c = '=' :=
        ⟨Text.eq_of_toLower_eq (by decide), fun h => by rw [h]; rfl⟩
      simp [afterKey?, show Char.toLower '=' = '=' from rfl, hc]
  | cons k ks ih =>
    simp only [List.forall₂_cons_left_iff]
    cases text with
    | nil => simp [afterKey?]
    | cons c cs =>
      rw [List.cons_append, afterKey?]
      split_ifs with hc
      · rw [ih]
        constructor
        · rintro ⟨written, hwritten, rfl⟩
          exact ⟨c :: written, ⟨c, written, toLower_eq_toLower_iff.1 hc, hwritten, rfl⟩, rfl⟩
        · rintro ⟨_, ⟨d, written, -, hwritten, rfl⟩, htext⟩
          rw [List.cons_append, List.cons.injEq] at htext
          exact ⟨written, hwritten, htext.2⟩
      · refine iff_of_false not_false ?_
        rintro ⟨_, ⟨d, written, hsame, -, rfl⟩, htext⟩
        rw [List.cons_append, List.cons.injEq] at htext
        exact hc (toLower_eq_toLower_iff.2 (htext.1 ▸ hsame))

/-- A value ends at the first bar. -/
lemma takeWhile_append_bar {value : List Char} (h : '|' ∉ value) (rest : List Char) :
    (value ++ '|' :: rest).takeWhile (· ≠ '|') = value ∧
      (value ++ '|' :: rest).dropWhile (· ≠ '|') = '|' :: rest := by
  have hne : ∀ c ∈ value, decide (c ≠ '|') = true := by
    intro c hc
    exact decide_eq_true fun e => h (e ▸ hc)
  rw [List.takeWhile_append_of_pos hne, List.dropWhile_append_of_pos hne]
  simp

/-- A field is found where it begins, and what is found is a field. -/
lemma value?_eq_some_iff {v : List Char} :
    value? key text = some (v, rest) ↔
      ∃ field : Found, field.Has key ∧ field.gap = [] ∧ field.value = v ∧
        text = field.text ++ rest := by
  rw [value?]
  constructor
  · intro h
    split at h
    · cases h
    next r hr =>
      obtain ⟨written, hwritten, rfl⟩ := afterKey?_eq_some_iff.1 hr
      split at h
      · cases h
      next bar tail htail =>
        cases h
        have hbar : bar = '|' := by
          have hhead := List.head?_dropWhile_not (· ≠ '|') r
          rw [htail] at hhead
          simpa using hhead
        have hvalue : '|' ∉ r.takeWhile (· ≠ '|') := by
          intro hmem
          simpa using List.all_eq_true.1 (List.all_takeWhile (p := (· ≠ '|')) (l := r)) _ hmem
        refine ⟨⟨[], written, r.takeWhile (· ≠ '|')⟩, ⟨hwritten, hvalue⟩, rfl, rfl, ?_⟩
        have hr' := List.takeWhile_append_dropWhile (p := (· ≠ '|')) (l := r)
        rw [htail, hbar] at hr'
        simp only [Found.text, List.append_assoc, List.cons_append, List.nil_append, hr']
  · rintro ⟨field, ⟨hwritten, hvalue⟩, -, rfl, rfl⟩
    have hkey : afterKey? (key ++ ['=']) (field.text ++ rest) =
        some (field.value ++ '|' :: rest) :=
      afterKey?_eq_some_iff.2 ⟨field.key, hwritten, by simp [Found.text]⟩
    obtain ⟨htake, hdrop⟩ := takeWhile_append_bar hvalue rest
    rw [hkey]
    dsimp only
    rw [hdrop, htake]

/-- The value of a field is found at its beginning, whatever the gap before it. -/
lemma value?_of_has {field : Found} (h : field.Has key) (rest : List Char) :
    value? key (field.text ++ rest) = some (field.value, rest) :=
  value?_eq_some_iff.2 ⟨⟨[], field.key, field.value⟩, ⟨h.key, h.value⟩, rfl, rfl, rfl⟩

/-- Nothing is found exactly where no field begins. -/
lemma value?_eq_none_iff : value? key text = none ↔ ¬Begins key text := by
  rw [Option.eq_none_iff_forall_not_mem]
  constructor
  · rintro h ⟨field, hhas, rest, rfl⟩
    exact h (field.value, rest) (value?_of_has hhas rest)
  · rintro h ⟨v, rest⟩ hv
    obtain ⟨field, hhas, -, -, rfl⟩ := value?_eq_some_iff.1 hv
    exact h ⟨field, hhas, List.prefix_append _ _⟩

/-! ### Gaps -/

lemma barren_nil (key rest : List Char) : Barren key [] rest := by
  intro front back h hne
  exact absurd (List.append_eq_nil_iff.1 h.symm).2 hne

/-- A gap begins with a character where no field begins, and goes on as a gap. -/
lemma barren_cons_iff {c : Char} :
    Barren key (c :: gap) rest ↔ ¬Begins key (c :: (gap ++ rest)) ∧ Barren key gap rest := by
  constructor
  · intro h
    refine ⟨h [] (c :: gap) rfl (by simp), fun front back hgap hne => ?_⟩
    exact h (c :: front) back (by rw [hgap, List.cons_append]) hne
  · rintro ⟨hfirst, h⟩ front back hgap hne
    cases front with
    | nil =>
      rw [List.nil_append] at hgap
      rwa [← hgap]
    | cons d front =>
      rw [List.cons_append, List.cons.injEq] at hgap
      exact h front back hgap.2 hne

/-- The scan passes over a gap. -/
lemma values_gap (h : Barren key gap rest) : values key (gap ++ rest) = values key rest := by
  induction gap with
  | nil => rfl
  | cons c gap ih =>
    obtain ⟨hfirst, hgap⟩ := barren_cons_iff.1 h
    rw [List.cons_append, values_cons_of_value? (value?_eq_none_iff.2 hfirst), ih hgap]

/-! ### The division of a text -/

lemma Found.text_ne_nil (field : Found) : field.text ≠ [] := by
  simp [text]

/-- The scan takes the value of a field and goes on behind the field. -/
lemma values_field {field : Found} (h : field.Has key) (rest : List Char) :
    values key (field.text ++ rest) = field.value :: values key rest :=
  values_of_value? (value?_of_has h rest) (by simp [field.text_ne_nil])

/-- The scan finds the values of the fields. -/
lemma Divides.values_eq {fields : List Found} {last : List Char}
    (h : Divides key text fields last) : values key text = fields.map Found.value := by
  induction h with
  | @last gap hbarren =>
    have hgap := values_gap hbarren
    rw [List.append_nil] at hgap
    rw [hgap, values, List.map_nil]
  | field hbarren hhas _ ih =>
    rw [values_gap hbarren, values_field hhas, ih, List.map_cons]

/-- The fields of a division have the key. -/
lemma Divides.has {fields : List Found} {last : List Char} (h : Divides key text fields last) :
    ∀ field ∈ fields, field.Has key := by
  induction h with
  | last => exact fun _ hfield => absurd hfield List.not_mem_nil
  | field _ hhas _ ih =>
    intro other hother
    rcases List.mem_cons.1 hother with rfl | hother
    · exact hhas
    · exact ih other hother

/-- A division is extended by a character in front where no field begins. -/
lemma Divides.cons {fields : List Found} {last : List Char} {c : Char}
    (h : Divides key text fields last) (hc : ¬Begins key (c :: text)) :
    ∃ fields' last', Divides key (c :: text) fields' last' := by
  cases h with
  | last hbarren =>
    rw [← List.append_nil text] at hc
    exact ⟨[], c :: text, .last (barren_cons_iff.2 ⟨hc, hbarren⟩)⟩
  | @field field rest _ fields hbarren hhas hdivides =>
    have hlonger : Found.Has ⟨c :: field.gap, field.key, field.value⟩ key := ⟨hhas.key, hhas.value⟩
    exact ⟨_ :: fields, last, .field (barren_cons_iff.2 ⟨hc, hbarren⟩) hlonger hdivides⟩

/-- A text has a division: the one that the scan makes. -/
lemma exists_divides (key text : List Char) : ∃ fields last, Divides key text fields last := by
  fun_induction values key text with
  | case1 => exact ⟨[], [], .last (barren_nil key [])⟩
  | case2 c r v rest hvalue ih =>
    obtain ⟨field, hhas, hgap, -, htext⟩ := value?_eq_some_iff.1 hvalue
    obtain ⟨fields, last, hdivides⟩ := ih
    have hbarren : Barren key field.gap (field.text ++ rest) := by
      rw [hgap]
      exact barren_nil key _
    refine ⟨field :: fields, last, ?_⟩
    have hfirst := Divides.field hbarren hhas hdivides
    rwa [hgap, List.nil_append, ← htext] at hfirst
  | case3 c r hvalue ih =>
    obtain ⟨fields, last, hdivides⟩ := ih
    exact hdivides.cons (value?_eq_none_iff.1 hvalue)

/-- A gap ends where a field begins for the first time. -/
lemma Barren.unique {gap' rest' : List Char} (h : Barren key gap rest)
    (h' : Barren key gap' rest') (hbegins : Begins key rest) (hbegins' : Begins key rest')
    (heq : gap ++ rest = gap' ++ rest') : gap = gap' ∧ rest = rest' := by
  induction gap generalizing gap' with
  | nil =>
    cases gap' with
    | nil => exact ⟨rfl, heq⟩
    | cons c gap' =>
      rw [List.nil_append, List.cons_append] at heq
      exact absurd (heq ▸ hbegins) (barren_cons_iff.1 h').1
  | cons c gap ih =>
    cases gap' with
    | nil =>
      rw [List.nil_append, List.cons_append] at heq
      exact absurd (heq ▸ hbegins') (barren_cons_iff.1 h).1
    | cons d gap' =>
      rw [List.cons_append, List.cons_append, List.cons.injEq] at heq
      obtain ⟨rfl, heq⟩ := heq
      obtain ⟨rfl, hrest⟩ := ih (barren_cons_iff.1 h).2 (barren_cons_iff.1 h').2 heq
      exact ⟨rfl, hrest⟩

/-- The beginning of a field settles its end. -/
lemma Found.Has.unique {field field' : Found} {rest' : List Char} (h : field.Has key)
    (h' : field'.Has key) (heq : field.text ++ rest = field'.text ++ rest') :
    field.key = field'.key ∧ field.value = field'.value ∧ rest = rest' := by
  have hvalue := value?_of_has h rest
  rw [heq, value?_of_has h' rest', Option.some_inj, Prod.mk.injEq] at hvalue
  obtain ⟨hvalue, rfl⟩ := hvalue
  have htext := List.append_cancel_right heq
  have hlength : field.key.length = field'.key.length :=
    h.key.length_eq.symm.trans h'.key.length_eq
  exact ⟨(List.append_inj htext hlength).1, hvalue.symm, rfl⟩

/-- A field begins where it stands. -/
lemma Found.Has.begins {field : Found} (h : field.Has key) (rest : List Char) :
    Begins key (field.text ++ rest) :=
  ⟨field, h, List.prefix_append _ _⟩

/-- A field after a gap begins somewhere in the text, so the text is no gap. -/
lemma Found.Has.not_barren {field : Found} (h : field.Has key) (gap rest : List Char) :
    ¬Barren key (gap ++ (field.text ++ rest)) [] := by
  intro hbarren
  refine hbarren gap (field.text ++ rest) rfl (by simp [field.text_ne_nil]) ?_
  rw [List.append_nil]
  exact h.begins rest

/-- A text has one division only. -/
lemma Divides.unique {fields fields' : List Found} {last last' : List Char}
    (h : Divides key text fields last) (h' : Divides key text fields' last') :
    fields = fields' ∧ last = last' := by
  induction h generalizing fields' last' with
  | @last gap hbarren =>
    cases h' with
    | last => exact ⟨rfl, rfl⟩
    | field _ hhas => exact absurd hbarren (hhas.not_barren _ _)
  | @field field rest last fields hbarren hhas _ ih =>
    generalize htext : field.gap ++ (field.text ++ rest) = text' at h'
    cases h' with
    | last hbarren' => exact absurd (htext ▸ hbarren') (hhas.not_barren _ _)
    | @field field' rest' _ fields' hbarren' hhas' hdivides' =>
      obtain ⟨hgap, hrest⟩ := hbarren.unique hbarren' (hhas.begins rest) (hhas'.begins rest') htext
      obtain ⟨hkey, hvalue, rfl⟩ := hhas.unique hhas' hrest
      obtain ⟨rfl, rfl⟩ := ih hdivides'
      exact ⟨by rw [Found.ext hgap hkey hvalue], rfl⟩

/-- **The division of a text.** A key that is not empty divides a text into fields and gaps in
exactly one way, and what is extracted are the values of the fields, trimmed, in their order, without
blank ones. Of the empty key nothing is extracted. -/
theorem extract_of_division (text key : String) :
    (key ≠ "" →
      (∃! division : List Found × List Char,
        Divides key.toList text.toList division.1 division.2) ∧
      ∀ fields last, Divides key.toList text.toList fields last →
        extract text key =
          (fields.map fun field => Text.trim (String.ofList field.value)).filter (· ≠ "")) ∧
    extract text "" = [] := by
  refine ⟨fun hkey => ⟨?_, fun fields last h => ?_⟩, rfl⟩
  · obtain ⟨fields, last, h⟩ := exists_divides key.toList text.toList
    refine ⟨(fields, last), h, fun division h' => ?_⟩
    obtain ⟨hfields, hlast⟩ := h'.unique h
    exact Prod.ext hfields hlast
  · rw [extract, if_neg hkey, h.values_eq, List.map_map]
    rfl

/-- The fields of a key that ends in a bar and overlaps itself: the first begins at its second letter,
the value of the second is blank and that of the third has no end. -/
theorem extract_of_division_overlapping :
    "aa|" ≠ "" ∧
      (∃! division : List Found × List Char,
        Divides "aa|".toList "aAa|=v\nw|Aa|= |aa|=x".toList division.1 division.2) ∧
      extract "aAa|=v\nw|Aa|= |aa|=x" "aa|" = ["v\nw"] := by
  have hkey : "aa|" ≠ "" := by decide
  exact ⟨hkey, ((extract_of_division "aAa|=v\nw|Aa|= |aa|=x" "aa|").1 hkey).1, by decide +kernel⟩

end Screening.Field
