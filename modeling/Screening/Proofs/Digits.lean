/-
Numbers of a fixed width.

A number that is padded to a width it fits into has exactly that many digits, and every list of that
many digits is a number padded so. Two lists of one width stand in the order of their numbers, for
the first digit that differs decides.

* `eq_iff_of_lt_iff`, `compare_eq_of_lt_iff`: two orders that agree.
* `IsNumeral`: the lists of digits of a width.
* `isNumeral_padded`, `digitsValue_padded`, `padded_digitsValue`: padding and reading are inverse.
* `append_lt_append_iff`: texts whose fronts have one length are compared by these first.
* `IsNumeral.lt_iff`, `padded_lt_padded_iff`: the order of texts is that of numbers.
-/
import Mathlib.Data.Char
import Mathlib.Data.List.Lex
import Mathlib.Data.Nat.Digits.Defs
import Screening.Calendar.Iso
import Screening.Json.Number

namespace Screening

open Iso (digitsValue)
open Json (digitValue)

/-! ### Comparing alike -/

section Order

variable {α β : Type} [LinearOrder α] [LinearOrder β] {a b : α} {x y : β}

/-- What stands in the same order is equal alike. -/
lemma eq_iff_of_lt_iff (hlt : a < b ↔ x < y) (hgt : b < a ↔ y < x) : a = b ↔ x = y := by
  rw [eq_iff_le_not_lt, eq_iff_le_not_lt, ← not_lt, ← not_lt, hlt, hgt]

/-- What stands in the same order compares alike. -/
lemma compare_eq_of_lt_iff (hlt : a < b ↔ x < y) (hgt : b < a ↔ y < x) :
    compare a b = compare x y := by
  rcases lt_trichotomy x y with h | h | h
  · rw [compare_lt_iff_lt.2 h, compare_lt_iff_lt.2 (hlt.2 h)]
  · rw [compare_eq_iff_eq.2 h, compare_eq_iff_eq.2 ((eq_iff_of_lt_iff hlt hgt).2 h)]
  · rw [compare_gt_iff_gt.2 h, compare_gt_iff_gt.2 (hgt.2 h)]

end Order

/-! ### Digits and numbers -/

/-- A digit lies between zero and nine. -/
lemma toNat_of_isDigit {c : Char} (h : c.isDigit = true) : 48 ≤ c.toNat ∧ c.toNat ≤ 57 := by
  rw [Char.isDigit, Bool.and_eq_true, decide_eq_true_eq, decide_eq_true_eq] at h
  exact ⟨UInt32.le_iff_toNat_le.1 h.1, UInt32.le_iff_toNat_le.1 h.2⟩

/-- A digit is none of the characters that are no digits. -/
lemma ne_of_isDigit {c d : Char} (hc : c.isDigit = true) (hd : d.isDigit = false) : c ≠ d := by
  rintro rfl
  exact Bool.false_ne_true (hd.symm.trans hc)

/-- Digits are no white space. -/
lemma Text.isSpace_of_isDigit {c : Char} (h : c.isDigit = true) : isSpace c = false := by
  have hbounds := toNat_of_isDigit h
  simp only [isSpace, Bool.or_eq_false_iff, Bool.and_eq_false_iff, decide_eq_false_iff_not,
    beq_eq_false_iff_ne]
  omega

/-- A list of digits of a width. -/
structure IsNumeral (width : ℕ) (cs : List Char) : Prop where
  length : cs.length = width
  digits : ∀ c ∈ cs, c.isDigit = true

instance (width : ℕ) (cs : List Char) : Decidable (IsNumeral width cs) :=
  decidable_of_iff (cs.length = width ∧ cs.all Char.isDigit)
    ⟨fun h => ⟨h.1, List.all_eq_true.1 h.2⟩, fun h => ⟨h.length, List.all_eq_true.2 h.digits⟩⟩

/-- One more digit at the end makes its value the last of the number. -/
lemma digitsValue_concat (cs : List Char) (c : Char) :
    digitsValue (cs ++ [c]) = 10 * digitsValue cs + digitValue c := by
  rw [digitsValue, List.foldl_append]
  rfl

/-- A numeral that is not empty starts with a digit. -/
lemma IsNumeral.exists_cons {width : ℕ} {cs : List Char} (h : IsNumeral width cs)
    (hwidth : 0 < width) : ∃ c r, cs = c :: r ∧ c.isDigit = true := by
  obtain ⟨c, r, rfl⟩ := List.exists_cons_of_length_pos (h.length ▸ hwidth)
  exact ⟨c, r, rfl, h.digits c List.mem_cons_self⟩

/-- A numeral that is not empty is one of a digit less, and its last digit. -/
lemma IsNumeral.exists_concat {width : ℕ} {cs : List Char} (h : IsNumeral (width + 1) cs) :
    ∃ front last, cs = front ++ [last] ∧ IsNumeral width front ∧ last.isDigit = true := by
  obtain ⟨hlength, hdigits⟩ := h
  rcases List.eq_nil_or_concat cs with rfl | ⟨front, last, rfl⟩
  · simp at hlength
  · rw [List.concat_eq_append] at *
    exact ⟨front, last, rfl, ⟨by simpa using hlength, fun c hc => hdigits c (by simp [hc])⟩,
      hdigits last (by simp)⟩

/-- A numeral of a width is below the power of ten. -/
lemma IsNumeral.digitsValue_lt {width : ℕ} {cs : List Char} (h : IsNumeral width cs) :
    digitsValue cs < 10 ^ width := by
  induction width generalizing cs with
  | zero =>
    rw [List.length_eq_zero_iff.1 h.length]
    exact Nat.one_pos
  | succ width ih =>
    obtain ⟨front, last, rfl, hfront, hlast⟩ := h.exists_concat
    have hvalue := ih hfront
    have hdigit := toNat_of_isDigit hlast
    rw [digitsValue_concat, digitValue, Nat.pow_succ]
    omega

/-! ### Padding and reading -/

/-- Zeros in front do not change a number. -/
lemma digitsValue_padded (width n : ℕ) : digitsValue (padded width n) = n := by
  calc digitsValue (padded width n)
      = Nat.ofDigitChars 10 (List.replicate (width - (Nat.toDigits 10 n).length) '0' ++
          Nat.toDigits 10 n) 0 := rfl
    _ = n := by
        rw [Nat.ofDigitChars_append, Nat.ofDigitChars_replicate_zero]
        simp

/-- A number is padded to a numeral of the width if it fits. -/
lemma isNumeral_padded {width n : ℕ} (hwidth : 0 < width) (hn : n < 10 ^ width) :
    IsNumeral width (padded width n) := by
  have hlength := Nat.toDigits_length 10 n width hwidth hn
  refine ⟨?_, fun c hc => ?_⟩
  · rw [padded, List.leftpad, List.length_append, List.length_replicate]
    exact Nat.sub_add_cancel hlength
  · rw [padded, List.leftpad, List.mem_append] at hc
    rcases hc with hzero | hdigit
    · rw [List.eq_of_mem_replicate hzero]
      rfl
    · exact Nat.isDigit_of_mem_toDigits (by simp) (by simp) hdigit

/-! ### The order of texts -/

/-- Texts whose fronts have the same length are compared by their fronts, and then by their rests. -/
lemma append_lt_append_iff {front front' : List Char} (h : front.length = front'.length)
    (rest rest' : List Char) :
    front ++ rest < front' ++ rest' ↔ front < front' ∨ front = front' ∧ rest < rest' := by
  induction front generalizing front' with
  | nil =>
    rw [List.length_eq_zero_iff.1 h.symm]
    simp
  | cons c front ih =>
    cases front' with
    | nil => simp at h
    | cons c' front' =>
      rw [List.cons_append, List.cons_append, List.cons_lt_cons_iff, List.cons_lt_cons_iff,
        ih (by simpa using h), List.cons.injEq]
      tauto

/-- Digits stand in the order of their values. -/
lemma digitValue_lt_iff {c d : Char} (hc : c.isDigit = true) (hd : d.isDigit = true) :
    c < d ↔ digitValue c < digitValue d := by
  have hc := toNat_of_isDigit hc
  have hd := toNat_of_isDigit hd
  have hlt : c < d ↔ c.toNat < d.toNat := UInt32.lt_iff_toNat_lt
  rw [hlt, digitValue, digitValue]
  omega

/-- **Numerals of one width stand in the order of their numbers.** -/
lemma IsNumeral.lt_iff {width : ℕ} {cs ds : List Char} (hcs : IsNumeral width cs)
    (hds : IsNumeral width ds) : cs < ds ↔ digitsValue cs < digitsValue ds := by
  induction width generalizing cs ds with
  | zero => simp [List.length_eq_zero_iff.1 hcs.length, List.length_eq_zero_iff.1 hds.length]
  | succ width ih =>
    obtain ⟨front, last, rfl, hfront, hlast⟩ := hcs.exists_concat
    obtain ⟨front', last', rfl, hfront', hlast'⟩ := hds.exists_concat
    have hlt := ih hfront hfront'
    have heq := eq_iff_of_lt_iff hlt (ih hfront' hfront)
    have hbound := toNat_of_isDigit hlast
    have hbound' := toNat_of_isDigit hlast'
    rw [append_lt_append_iff (hfront.length.trans hfront'.length.symm), hlt, heq,
      List.cons_lt_cons_iff, digitValue_lt_iff hlast hlast', digitsValue_concat, digitsValue_concat]
    simp only [List.not_lt_nil, and_false, or_false]
    rw [digitValue, digitValue]
    omega

/-- A numeral of a width is told by its number. -/
lemma IsNumeral.eq_iff {width : ℕ} {cs ds : List Char} (hcs : IsNumeral width cs)
    (hds : IsNumeral width ds) : cs = ds ↔ digitsValue cs = digitsValue ds :=
  eq_iff_of_lt_iff (hcs.lt_iff hds) (hds.lt_iff hcs)

/-- Two numbers are padded to the same text only if they are equal. -/
lemma padded_injective (width : ℕ) : Function.Injective (padded width) :=
  Function.LeftInverse.injective (digitsValue_padded width)

/-- Padded numbers of one width stand in the order of the numbers. -/
lemma padded_lt_padded_iff {width m n : ℕ} (hwidth : 0 < width) (hm : m < 10 ^ width)
    (hn : n < 10 ^ width) : padded width m < padded width n ↔ m < n := by
  rw [(isNumeral_padded hwidth hm).lt_iff (isNumeral_padded hwidth hn), digitsValue_padded,
    digitsValue_padded]

/-- The number of a numeral is padded to the numeral. -/
lemma IsNumeral.padded_digitsValue {width : ℕ} {cs : List Char} (h : IsNumeral width cs)
    (hwidth : 0 < width) : padded width (digitsValue cs) = cs := by
  rw [(isNumeral_padded hwidth h.digitsValue_lt).eq_iff h, digitsValue_padded]

end Screening
