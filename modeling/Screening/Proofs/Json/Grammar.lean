/-
Well-formed JSON texts.

The grammar of JSON says which texts are values: words, numbers, strings, and lists and objects with
white space around each of their parts. It does not mention how a text is read. A value of the
grammar is passed over exactly, however deep it is nested, if what stands behind it does not go on a
number.

* `IsStringForm`, `IsNumber`, `IsValue`: strings between their quotes, numbers, and all values.
* `skipString_of_isStringForm`, `skipNumber_of_isNumber`: scalars are passed over.
* `IsValue.skippable`: values are passed over.
-/
import Mathlib.Data.List.Forall2
import Screening.Proofs.Digits
import Screening.Proofs.Json.Skipping
import Screening.Proofs.Json.Spelling

namespace Screening.Json

/-! ### Strings -/

/-- The letters of the short escapes and the characters that they stand for. -/
def shortEscapes : List (Char × Char) :=
  [('"', '"'), ('\\', '\\'), ('/', '/'), ('b', '\x08'), ('f', '\x0c'), ('n', '\n'), ('r', '\r'),
    ('t', '\t')]

/-- A hexadecimal digit of either case and its value. -/
def IsHexDigit (c : Char) (v : ℕ) : Prop :=
  "0123456789abcdef".toList[v]? = some c ∨ "0123456789ABCDEF".toList[v]? = some c

instance (c : Char) (v : ℕ) : Decidable (IsHexDigit c v) :=
  inferInstanceAs (Decidable (_ ∨ _))

/-- Four hexadecimal digits and the number that they write. -/
def IsHex (cs : List Char) (n : ℕ) : Prop :=
  ∃ vs : List ℕ, vs.length = 4 ∧ List.Forall₂ IsHexDigit cs vs ∧
    n = vs.foldl (fun n v => 16 * n + v) 0

/-- Four digits write the number that has them in this order. -/
lemma isHex_of_digits {a b c d : Char} {w x y z : ℕ} (ha : IsHexDigit a w) (hb : IsHexDigit b x)
    (hc : IsHexDigit c y) (hd : IsHexDigit d z) :
    IsHex [a, b, c, d] (16 * (16 * (16 * (16 * 0 + w) + x) + y) + z) :=
  ⟨[w, x, y, z], rfl, .cons ha (.cons hb (.cons hc (.cons hd .nil))), rfl⟩

/-- A character that stands for itself in a string. -/
structure IsPlain (c : Char) : Prop where
  not_quote : c ≠ '"'
  not_backslash : c ≠ '\\'
  not_control : 0x20 ≤ c.toNat

instance (c : Char) : Decidable (IsPlain c) :=
  decidable_of_iff (c ≠ '"' ∧ c ≠ '\\' ∧ 0x20 ≤ c.toNat)
    ⟨fun h => ⟨h.1, h.2.1, h.2.2⟩, fun h => ⟨h.not_quote, h.not_backslash, h.not_control⟩⟩

/-- The text of a string between its quotes. The number of an escape may be any, also half of a
surrogate pair. -/
inductive IsStringForm : List Char → Prop where
  | nil : IsStringForm []
  | plain {c : Char} {text : List Char} :
    IsPlain c → IsStringForm text → IsStringForm (c :: text)
  | short {letter c : Char} {text : List Char} :
    (letter, c) ∈ shortEscapes → IsStringForm text → IsStringForm ('\\' :: letter :: text)
  | number {digits text : List Char} {n : ℕ} :
    IsHex digits n → IsStringForm text → IsStringForm ('\\' :: 'u' :: (digits ++ text))

/-! ### Numbers -/

/-- At least one digit, and nothing else. -/
def IsDigits (cs : List Char) : Prop :=
  cs ≠ [] ∧ ∀ c ∈ cs, c.isDigit = true

instance (cs : List Char) : Decidable (IsDigits cs) :=
  have := List.decidableBAll (fun c : Char => c.isDigit = true) cs
  inferInstanceAs (Decidable (_ ∧ _))

/-- The digits of an integer; none follows a leading zero. -/
def IsInteger (cs : List Char) : Prop :=
  IsDigits cs ∧ ∀ r, cs = '0' :: r → r = []

/-- A fraction, if there is one. -/
def IsFraction (cs : List Char) : Prop :=
  cs = [] ∨ ∃ digits, IsDigits digits ∧ cs = '.' :: digits

/-- An exponent, if there is one, whose sign may be left out. -/
def IsExponent (cs : List Char) : Prop :=
  cs = [] ∨ ∃ e sign digits, (e = 'e' ∨ e = 'E') ∧ (sign = [] ∨ sign = ['+'] ∨ sign = ['-']) ∧
    IsDigits digits ∧ cs = e :: (sign ++ digits)

/-- A number without its sign. -/
def IsMagnitude (cs : List Char) : Prop :=
  ∃ integer fraction exponent, IsInteger integer ∧ IsFraction fraction ∧ IsExponent exponent ∧
    cs = integer ++ (fraction ++ exponent)

/-- A number. -/
def IsNumber (cs : List Char) : Prop :=
  IsMagnitude cs ∨ ∃ magnitude, IsMagnitude magnitude ∧ cs = '-' :: magnitude

/-! ### Values -/

/-- A text with white space around it. -/
structure Padded where
  before : List Char
  text : List Char
  after : List Char
  isGap_before : IsGap before
  isGap_after : IsGap after

/-- The text with the white space. -/
def Padded.all (p : Padded) : List Char :=
  p.before ++ (p.text ++ p.after)

/-- The text of a member of an object: its key, without the quotes, and its value. -/
structure MemberText where
  key : Padded
  value : Padded

/-- The whole text of a member. -/
def MemberText.all (m : MemberText) : List Char :=
  m.key.before ++ (quoted m.key.text ++ (m.key.after ++ ':' :: m.value.all))

/-- Parts, each behind a comma. -/
def behindCommas (parts : List (List Char)) : List Char :=
  parts.flatMap (',' :: ·)

/-- What stands between brackets: parts with commas between them, or white space if there is no
part. -/
def IsInner (parts : List (List Char)) (inner : List Char) : Prop :=
  match parts with
  | [] => IsGap inner
  | part :: parts => inner = part ++ behindCommas parts

/-- The text of a value. -/
inductive IsValue : List Char → Prop where
  | null : IsValue ['n', 'u', 'l', 'l']
  | true : IsValue ['t', 'r', 'u', 'e']
  | false : IsValue ['f', 'a', 'l', 's', 'e']
  | number {text : List Char} : IsNumber text → IsValue text
  | string {text : List Char} : IsStringForm text → IsValue (quoted text)
  | list {parts : List Padded} {inner : List Char} :
    IsInner (parts.map Padded.all) inner → (∀ part ∈ parts, IsValue part.text) →
      IsValue ('[' :: (inner ++ [']']))
  | object {members : List MemberText} {inner : List Char} :
    IsInner (members.map MemberText.all) inner → (∀ m ∈ members, IsStringForm m.key.text) →
      (∀ m ∈ members, IsValue m.value.text) →
      IsValue (Char.ofNat 0x7B :: (inner ++ [Char.ofNat 0x7D]))

/-! ### Strings are passed over -/

variable {cs text rest gap : List Char} {stack : List Frame}

/-- A hexadecimal digit has its value. -/
lemma IsHexDigit.hexValue? {c : Char} {v : ℕ} (h : IsHexDigit c v) : hexValue? c = some v := by
  have hv : v < 16 := by
    rcases h with h | h <;> exact (List.getElem?_eq_some_iff.1 h).1
  have hdigits : ∀ v < 16, ("0123456789abcdef".toList[v]?.bind Json.hexValue? = some v) ∧
      ("0123456789ABCDEF".toList[v]?.bind Json.hexValue? = some v) := by decide
  obtain ⟨hlower, hupper⟩ := hdigits v hv
  rcases h with h | h
  · rwa [h] at hlower
  · rwa [h] at hupper

/-- Four hexadecimal digits are read as their number. -/
lemma IsHex.readHex {digits : List Char} {n : ℕ} (h : IsHex digits n) (rest : List Char) :
    readHex (digits ++ rest) = .ok (n, rest) := by
  obtain ⟨vs, hlength, hdigits, rfl⟩ := h
  have hmap : digits.mapM Json.hexValue? = some vs := by
    clear hlength
    induction hdigits with
    | nil => rfl
    | cons hd _ ih =>
      rw [List.mapM_cons, hd.hexValue?, ih]
      rfl
  have hfour : digits.length = 4 := hdigits.length_eq.trans hlength
  have hsize : ¬Utf8.size digits < 4 := by
    rw [size_of_mapM_hexValue? hmap, hfour]
    exact Nat.lt_irrefl 4
  rw [Json.readHex, List.take_left' hfour, List.drop_left' hfour, if_neg hsize, hmap]

/-- The letter of a short escape stands for its character, and is not that of a number. -/
lemma escaped?_of_mem {letter c : Char} (h : (letter, c) ∈ shortEscapes) :
    escaped? letter = some c ∧ letter ≠ 'u' := by
  have hall : ∀ e ∈ shortEscapes, escaped? e.1 = some e.2 ∧ e.1 ≠ 'u' := by decide
  exact hall _ h

/-- A string is passed over with its closing quote. -/
lemma skipString_of_isStringForm (h : IsStringForm text) (rest : List Char) :
    skipString (text ++ '"' :: rest) = .ok rest := by
  induction h with
  | nil => rw [List.nil_append, skipString]
  | plain hc _ ih =>
    rw [List.cons_append, skipString_cons hc.not_quote hc.not_backslash (Nat.not_lt.2 hc.not_control),
      ih]
  | @short letter c text hmem _ ih =>
    obtain ⟨hescaped, hletter⟩ := escaped?_of_mem hmem
    have hskip := skipEscape_short hescaped hletter (text ++ '"' :: rest)
    rw [List.cons_append, List.cons_append, skipString_of_skipEscape hskip, ih]
  | @number digits text n hdigits _ ih =>
    have hskip := skipEscape_number (hdigits.readHex (text ++ '"' :: rest))
    rw [List.cons_append, List.cons_append, List.append_assoc, skipString_of_skipEscape hskip, ih]

/-! ### Numbers are passed over -/

/-- A text that does not go on a number. -/
def Stops (cs : List Char) : Prop :=
  ∀ c r, cs = c :: r → c.isDigit = false ∧ c ≠ '.' ∧ c ≠ 'e' ∧ c ≠ 'E'

lemma stops_cons {c : Char} (h : c.isDigit = false ∧ c ≠ '.' ∧ c ≠ 'e' ∧ c ≠ 'E') (r : List Char) :
    Stops (c :: r) := by
  rintro _ _ ⟨⟩
  exact h

/-- White space stops a number. -/
lemma stops_gap (hgap : IsGap gap) (h : Stops cs) : Stops (gap ++ cs) := by
  cases gap with
  | nil => exact h
  | cons c gap =>
    have hc : isSpace c = true := hgap c List.mem_cons_self
    simp only [isSpace, Bool.or_eq_true, beq_iff_eq] at hc
    refine stops_cons ?_ _
    rcases hc with ((rfl | rfl) | rfl) | rfl <;> decide

/-- Digits are passed over if no digit follows them. -/
lemma skipDigits_of_isDigits {digits : List Char} (h : ∀ c ∈ digits, c.isDigit = true)
    (hrest : ∀ c r, rest = c :: r → c.isDigit = false) : skipDigits (digits ++ rest) = rest := by
  rw [skipDigits, List.dropWhile_append_of_pos h]
  cases rest with
  | nil => rfl
  | cons c r => exact List.dropWhile_cons_of_neg (by rw [hrest c r rfl]; exact Bool.false_ne_true)

lemma skipExponent_of_isDigits {sign digits : List Char}
    (hsign : sign = [] ∨ sign = ['+'] ∨ sign = ['-']) (h : IsDigits digits) (hrest : Stops rest) :
    skipExponent (sign ++ (digits ++ rest)) = .ok rest := by
  obtain ⟨hne, hdigits⟩ := h
  obtain ⟨c, r, rfl⟩ := List.exists_cons_of_ne_nil hne
  have hc : c.isDigit = true := hdigits c List.mem_cons_self
  have hsigned : (readExponentSign (sign ++ (c :: r ++ rest))).2 = c :: (r ++ rest) := by
    rcases hsign with rfl | rfl | rfl
    · rw [List.nil_append, List.cons_append, readExponentSign]
      · rintro r ⟨⟩
        cases hc
      · rintro r ⟨⟩
        cases hc
    · rfl
    · rfl
  rw [skipExponent, hsigned]
  dsimp only
  rw [if_pos hc, skipDigits_of_isDigits (fun d hd => hdigits d (List.mem_cons_of_mem c hd))
    fun d r hr => (hrest d r hr).1]

lemma skipScale_of_isExponent {exponent : List Char} (h : IsExponent exponent)
    (hrest : Stops rest) : skipScale (exponent ++ rest) = .ok rest := by
  rcases h with rfl | ⟨e, sign, digits, he, hsign, hdigits, rfl⟩
  · cases rest with
    | nil => rfl
    | cons c r =>
      obtain ⟨-, -, hlower, hupper⟩ := hrest c r rfl
      exact if_neg (not_or.2 ⟨hlower, hupper⟩)
  · rw [List.cons_append, List.append_assoc, skipScale, if_pos he]
    exact skipExponent_of_isDigits hsign hdigits hrest

/-- What follows the digits before it starts with no digit. -/
lemma isDigit_of_isExponent {exponent : List Char} (h : IsExponent exponent) (hrest : Stops rest)
    {c : Char} {r : List Char} (hcons : exponent ++ rest = c :: r) :
    c.isDigit = false ∧ c ≠ '.' := by
  rcases h with rfl | ⟨e, sign, digits, he, -, -, rfl⟩
  · obtain ⟨hdigit, hpoint, -⟩ := hrest c r hcons
    exact ⟨hdigit, hpoint⟩
  · obtain ⟨rfl, -⟩ := List.cons.inj hcons
    rcases he with rfl | rfl <;> decide

lemma skipAfterInteger_of_isFraction {fraction exponent : List Char} (h : IsFraction fraction)
    (hexponent : IsExponent exponent) (hrest : Stops rest) :
    skipAfterInteger (fraction ++ (exponent ++ rest)) = .ok rest := by
  rcases h with rfl | ⟨digits, ⟨hne, hdigits⟩, rfl⟩
  · have hpoint : ∀ r, exponent ++ rest ≠ '.' :: r := fun r hr =>
      (isDigit_of_isExponent hexponent hrest hr).2 rfl
    rw [List.nil_append, skipAfterInteger_of_ne hpoint, skipScale_of_isExponent hexponent hrest]
  · obtain ⟨c, r, rfl⟩ := List.exists_cons_of_ne_nil hne
    rw [List.cons_append, List.cons_append, skipAfterInteger_point (hdigits c List.mem_cons_self),
      ← List.cons_append, skipDigits_of_isDigits hdigits fun d r hr =>
        (isDigit_of_isExponent hexponent hrest hr).1, skipScale_of_isExponent hexponent hrest]

/-- What follows an integer starts with no digit. -/
lemma isDigit_of_isFraction {fraction exponent : List Char} (h : IsFraction fraction)
    (hexponent : IsExponent exponent) (hrest : Stops rest) {c : Char} {r : List Char}
    (hcons : fraction ++ (exponent ++ rest) = c :: r) : c.isDigit = false := by
  rcases h with rfl | ⟨digits, -, rfl⟩
  · exact (isDigit_of_isExponent hexponent hrest hcons).1
  · obtain ⟨rfl, -⟩ := List.cons.inj hcons
    rfl

/-- A number without its sign is passed over. -/
lemma skipNumber_of_isMagnitude (h : IsMagnitude text) (hrest : Stops rest) :
    skipNumber (text ++ rest) = .ok rest := by
  obtain ⟨integer, fraction, exponent, ⟨⟨hne, hdigits⟩, hzero⟩, hfraction, hexponent, rfl⟩ := h
  obtain ⟨c, r, rfl⟩ := List.exists_cons_of_ne_nil hne
  have hnext : ∀ d r', fraction ++ (exponent ++ rest) = d :: r' → d.isDigit = false :=
    fun d r' hr => isDigit_of_isFraction hfraction hexponent hrest hr
  rw [List.append_assoc, List.append_assoc, List.cons_append]
  by_cases hc : c = '0'
  · subst hc
    rw [hzero r rfl, List.nil_append, skipNumber_zero hnext,
      skipAfterInteger_of_isFraction hfraction hexponent hrest]
  · rw [skipNumber_digit (hdigits c List.mem_cons_self) hc, skipDigits_of_isDigits
      (fun d hd => hdigits d (List.mem_cons_of_mem c hd)) hnext,
      skipAfterInteger_of_isFraction hfraction hexponent hrest]

/-! ### Values are passed over -/

/-- A text that is passed over as a value, wherever it stands. -/
structure Skippable (cs : List Char) : Prop where
  starts : ∃ c r, cs = c :: r ∧ isSpace c = false ∧ c ≠ ']'
  skips : ∀ {gap : List Char}, IsGap gap → ∀ {rest : List Char}, Stops rest →
    ∀ stack : List Frame, skipInto stack (gap ++ (cs ++ rest)) = skipOut stack rest

/-- Behind white space a value does not start with the end of a list. -/
lemma Skippable.skipSpace_eq (h : Skippable cs) (hgap : IsGap gap) (rest : List Char) :
    ∃ c r, skipSpace (gap ++ (cs ++ rest)) = c :: r ∧ c ≠ ']' := by
  obtain ⟨c, r, rfl, hc, hne⟩ := h.starts
  exact ⟨c, _, skipSpace_gap_cons hgap hc _, hne⟩

lemma behindCommas_cons (part : List Char) (parts : List (List Char)) (rest : List Char) :
    behindCommas (part :: parts) ++ rest = ',' :: (part ++ (behindCommas parts ++ rest)) := by
  rw [behindCommas, List.flatMap_cons, List.cons_append, List.cons_append, List.append_assoc]
  rfl

lemma Padded.all_append (p : Padded) (rest : List Char) :
    p.all ++ rest = p.before ++ (p.text ++ (p.after ++ rest)) := by
  rw [all, List.append_assoc, List.append_assoc]

lemma MemberText.all_append (m : MemberText) (rest : List Char) :
    m.all ++ rest = m.key.before ++ '"' :: (m.key.text ++ '"' :: (m.key.after ++ ':' ::
      (m.value.before ++ (m.value.text ++ (m.value.after ++ rest))))) := by
  rw [all, List.append_assoc, List.append_assoc, quoted_append, List.append_assoc, List.cons_append,
    m.value.all_append]

/-- White space before a value does not matter. -/
lemma skipStart_gap (hgap : IsGap gap) (cs : List Char) : skipStart (gap ++ cs) = skipStart cs := by
  rw [skipStart, skipStart, skipSpace_gap hgap]

/-- A scalar is passed over if all of it is read as the start of a value. -/
lemma skippable_of_skipStart
    (hstarts : ∃ c r, cs = c :: r ∧ isSpace c = false ∧ c ≠ ']')
    (h : ∀ {rest : List Char}, Stops rest → skipStart (cs ++ rest) = .ok (none, rest)) :
    Skippable cs where
  starts := hstarts
  skips hgap _ hrest stack := skipInto_scalar ((skipStart_gap hgap _).trans (h hrest)) stack

/-- A string is passed over. -/
lemma skippable_quoted (h : IsStringForm text) : Skippable (quoted text) := by
  refine skippable_of_skipStart ⟨'"', _, rfl, rfl, by decide⟩ fun {rest} _ => ?_
  rw [quoted_append]
  show (skipString _).map _ = _
  rw [skipString_of_isStringForm h]
  rfl

lemma readWord_self (word rest : List Char) : readWord word (word ++ rest) = .ok rest := by
  induction word with
  | nil => rfl
  | cons c word ih => rw [List.cons_append, readWord, if_pos rfl, ih]

/-- A word is passed over if its first letter tells what the others are. -/
lemma skippable_word {c : Char} {word : List Char} (hspace : isSpace c = false) (hne : c ≠ ']')
    (h : ∀ r, skipStart (c :: r) = (readWord word r).map (none, ·)) : Skippable (c :: word) := by
  refine skippable_of_skipStart ⟨c, word, rfl, hspace, hne⟩ fun {rest} _ => ?_
  rw [List.cons_append, h, readWord_self]
  rfl

/-- A number without its sign starts with a digit. -/
lemma IsMagnitude.starts (h : IsMagnitude text) : ∃ c r, text = c :: r ∧ c.isDigit = true := by
  obtain ⟨integer, fraction, exponent, ⟨⟨hne, hdigits⟩, -⟩, -, -, rfl⟩ := h
  obtain ⟨c, r, rfl⟩ := List.exists_cons_of_ne_nil hne
  exact ⟨c, _, rfl, hdigits c List.mem_cons_self⟩

lemma isSpace_of_isDigit {c : Char} (hc : c.isDigit = true) : isSpace c = false := by
  simp only [isSpace, Bool.or_eq_false_iff, beq_eq_false_iff_ne]
  exact ⟨⟨⟨ne_of_isDigit hc rfl, ne_of_isDigit hc rfl⟩, ne_of_isDigit hc rfl⟩, ne_of_isDigit hc rfl⟩

/-- What starts with a digit is passed over as a number. -/
lemma skipStart_digit {c : Char} (hc : c.isDigit = true) (r : List Char) :
    skipStart (c :: r) = (skipNumber (c :: r)).map (none, ·) := by
  have hne : ∀ {d : Char}, d.isDigit = false → c ≠ d := ne_of_isDigit hc
  have hbrace : c.toNat ≠ 0x7B := by
    intro h
    refine @hne (Char.ofNat 0x7B) (by decide) ?_
    rw [← h, Char.ofNat_toNat]
  rw [skipStart, skipSpace_cons (isSpace_of_isDigit hc)]
  dsimp only
  rw [if_neg (hne rfl), if_neg hbrace, if_neg (hne rfl), if_neg (hne rfl), if_neg (hne rfl),
    if_neg (hne rfl), if_neg (hne rfl), if_pos hc]

/-- A number is passed over. -/
lemma skippable_of_isNumber (h : IsNumber text) : Skippable text := by
  rcases h with h | ⟨magnitude, h, rfl⟩
  · obtain ⟨c, r, rfl, hc⟩ := h.starts
    have hstarts : isSpace c = false ∧ c ≠ ']' := ⟨isSpace_of_isDigit hc, ne_of_isDigit hc rfl⟩
    refine skippable_of_skipStart ⟨c, r, rfl, hstarts⟩ fun {rest} hrest => ?_
    rw [List.cons_append, skipStart_digit hc, ← List.cons_append, skipNumber_of_isMagnitude h hrest]
    rfl
  · refine skippable_of_skipStart ⟨'-', _, rfl, rfl, by decide⟩ fun {rest} hrest => ?_
    show (skipNumber (magnitude ++ rest)).map _ = _
    rw [skipNumber_of_isMagnitude h hrest]
    rfl

/-- What stands behind a part of a list or an object stops a number. -/
lemma stops_behindCommas (closing : Char)
    (hclosing : closing.isDigit = false ∧ closing ≠ '.' ∧ closing ≠ 'e' ∧ closing ≠ 'E')
    (parts : List (List Char)) (rest : List Char) :
    Stops (behindCommas parts ++ closing :: rest) := by
  cases parts with
  | nil => exact stops_cons hclosing rest
  | cons part parts =>
    rw [behindCommas_cons]
    exact stops_cons (by decide) _

/-- The further elements of a list are passed over with its bracket. -/
lemma skipOut_elements {parts : List Padded} (h : ∀ part ∈ parts, Skippable part.text)
    (hgap : IsGap gap) (stack : List Frame) (rest : List Char) :
    skipOut (.list :: stack) (gap ++ (behindCommas (parts.map Padded.all) ++ ']' :: rest))
      = skipOut stack rest := by
  induction parts generalizing gap with
  | nil => exact skipOut_listEnd (skipSpace_gap_cons hgap rfl rest) stack
  | cons part parts ih =>
    have hpart := h part List.mem_cons_self
    have hstops := stops_gap part.isGap_after
      (stops_behindCommas ']' (by decide) (parts.map Padded.all) rest)
    rw [List.map_cons, behindCommas_cons, skipOut_comma (skipSpace_gap_cons hgap rfl _),
      part.all_append, hpart.skips part.isGap_before hstops]
    exact ih (fun p hp => h p (List.mem_cons_of_mem part hp)) part.isGap_after

/-- A list is passed over if its elements are. -/
lemma skippable_list {parts : List Padded} {inner : List Char}
    (hinner : IsInner (parts.map Padded.all) inner) (h : ∀ part ∈ parts, Skippable part.text) :
    Skippable ('[' :: (inner ++ [']'])) where
  starts := ⟨'[', _, rfl, rfl, by decide⟩
  skips {gap} hgap rest hrest stack := by
    have hlist : skipStart (gap ++ ('[' :: (inner ++ [']']) ++ rest))
        = .ok (some .list, inner ++ ']' :: rest) := by
      rw [List.cons_append, List.append_assoc, skipStart, skipSpace_gap_cons hgap rfl]
      rfl
    cases parts with
    | nil => exact skipInto_emptyList hlist (skipSpace_gap_cons hinner rfl rest) stack
    | cons part parts =>
      have hpart := h part List.mem_cons_self
      have hstops := stops_gap part.isGap_after
        (stops_behindCommas ']' (by decide) (parts.map Padded.all) rest)
      obtain rfl : inner = part.all ++ behindCommas (parts.map Padded.all) := hinner
      have hparts : part.all ++ behindCommas (parts.map Padded.all) ++ ']' :: rest
          = part.before ++ (part.text ++ (part.after ++
              (behindCommas (parts.map Padded.all) ++ ']' :: rest))) := by
        rw [List.append_assoc, part.all_append]
      rw [hparts] at hlist
      obtain ⟨c, r, hfirst, hne⟩ := hpart.skipSpace_eq part.isGap_before
        (part.after ++ (behindCommas (parts.map Padded.all) ++ ']' :: rest))
      rw [skipInto_list hlist hfirst hne, hpart.skips part.isGap_before hstops]
      exact skipOut_elements (fun p hp => h p (List.mem_cons_of_mem part hp)) part.isGap_after stack
        rest

/-- The key of a member is passed over with its colon. -/
lemma skipKey_of_isStringForm {m : MemberText} (h : IsStringForm m.key.text) (rest : List Char) :
    skipKey (m.all ++ rest)
      = .ok (m.value.before ++ (m.value.text ++ (m.value.after ++ rest))) := by
  rw [m.all_append, skipKey, skipSpace_gap_cons m.key.isGap_before rfl]
  dsimp only
  rw [if_pos rfl, skipString_of_isStringForm h]
  exact skipColon_gap m.key.isGap_after _

/-- Members of an object whose parts are passed over. -/
structure SkippableMembers (members : List MemberText) : Prop where
  keys : ∀ m ∈ members, IsStringForm m.key.text
  values : ∀ m ∈ members, Skippable m.value.text

lemma SkippableMembers.tail {m : MemberText} {members : List MemberText}
    (h : SkippableMembers (m :: members)) : SkippableMembers members where
  keys m' hm := h.keys m' (List.mem_cons_of_mem m hm)
  values m' hm := h.values m' (List.mem_cons_of_mem m hm)

/-- Behind its key a member is passed over, and what follows it. -/
lemma SkippableMembers.skipInto_value {m : MemberText} {members : List MemberText}
    (h : SkippableMembers (m :: members)) (stack : List Frame) (rest : List Char) :
    skipInto stack (m.value.before ++ (m.value.text ++ (m.value.after ++
        (behindCommas (members.map MemberText.all) ++ Char.ofNat 0x7D :: rest))))
      = skipOut stack (m.value.after ++
          (behindCommas (members.map MemberText.all) ++ Char.ofNat 0x7D :: rest)) :=
  (h.values m List.mem_cons_self).skips m.value.isGap_before
    (stops_gap m.value.isGap_after (stops_behindCommas _ (by decide) _ rest)) stack

/-- The further members of an object are passed over with its brace. -/
lemma skipOut_members {members : List MemberText} (h : SkippableMembers members)
    (hgap : IsGap gap) (stack : List Frame) (rest : List Char) :
    skipOut (.object :: stack)
        (gap ++ (behindCommas (members.map MemberText.all) ++ Char.ofNat 0x7D :: rest))
      = skipOut stack rest := by
  induction members generalizing gap with
  | nil => exact skipOut_objectEnd (skipSpace_gap_cons hgap (by decide) rest) (by decide) stack
  | cons m members ih =>
    rw [List.map_cons, behindCommas_cons, skipOut_key (skipSpace_gap_cons hgap rfl _)
      (skipKey_of_isStringForm (h.keys m List.mem_cons_self) _) stack, h.skipInto_value]
    exact ih h.tail m.value.isGap_after

/-- An object is passed over if its members are. -/
lemma skippable_object {members : List MemberText} {inner : List Char}
    (hinner : IsInner (members.map MemberText.all) inner) (h : SkippableMembers members) :
    Skippable (Char.ofNat 0x7B :: (inner ++ [Char.ofNat 0x7D])) where
  starts := ⟨_, _, rfl, by decide, by decide⟩
  skips {gap} hgap rest hrest stack := by
    have hobject : skipStart (gap ++ (Char.ofNat 0x7B :: (inner ++ [Char.ofNat 0x7D]) ++ rest))
        = .ok (some .object, inner ++ Char.ofNat 0x7D :: rest) := by
      rw [List.cons_append, List.append_assoc, skipStart, skipSpace_gap_cons hgap (by decide)]
      rfl
    cases members with
    | nil =>
      exact skipInto_emptyObject hobject (skipSpace_gap_cons hinner (by decide) rest) (by decide)
        stack
    | cons m members =>
      obtain rfl : inner = m.all ++ behindCommas (members.map MemberText.all) := hinner
      have hmembers := List.append_assoc m.all (behindCommas (members.map MemberText.all))
        (Char.ofNat 0x7D :: rest)
      rw [hmembers] at hobject
      have hfirst : ∃ r, skipSpace (m.all ++
          (behindCommas (members.map MemberText.all) ++ Char.ofNat 0x7D :: rest)) = '"' :: r := by
        rw [m.all_append]
        exact ⟨_, skipSpace_gap_cons m.key.isGap_before rfl _⟩
      obtain ⟨r, hr⟩ := hfirst
      rw [skipInto_object hobject hr (by decide)
        (skipKey_of_isStringForm (h.keys m List.mem_cons_self) _) stack, h.skipInto_value]
      exact skipOut_members h.tail m.value.isGap_after stack rest

/-- **A value is passed over.** A value of the grammar is passed over wherever it stands, with white
space before it and anything behind it that does not go on a number. -/
theorem IsValue.skippable (h : IsValue cs) : Skippable cs := by
  induction h with
  | null => exact skippable_word rfl (by decide) fun _ => rfl
  | true => exact skippable_word rfl (by decide) fun _ => rfl
  | false => exact skippable_word rfl (by decide) fun _ => rfl
  | number hnumber => exact skippable_of_isNumber hnumber
  | string hstring => exact skippable_quoted hstring
  | list hinner _ ih => exact skippable_list hinner ih
  | object hinner hkeys _ ih => exact skippable_object hinner ⟨hkeys, ih⟩

end Screening.Json
