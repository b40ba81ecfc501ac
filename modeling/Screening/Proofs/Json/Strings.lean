/-
Written strings are read back.

A character is written as itself, by an escape of two characters, or by its number in four
hexadecimal digits; each of these forms is read as the character, whatever follows it, so a written
string is read up to its closing quote.

* `readString_escape`: one character.
* `readString_flatMap_escape`: all characters of a string.
-/
import Mathlib.Data.List.Infix
import Screening.Json.Token
import Screening.Json.Tree

namespace Screening.Json

/-! ### Escapes -/

/-- The four digits of the number of a control character give the number back. -/
lemma digits_of_control : ∀ n < 0x20,
    Utf8.size ((Nat.toDigits 16 n).leftpad 4 '0') = 4 ∧
      ((Nat.toDigits 16 n).leftpad 4 '0').length = 4 ∧
      (((Nat.toDigits 16 n).leftpad 4 '0').mapM hexValue?).map
        (fun ds => ds.foldl (fun n d => 16 * n + d) 0) = some n := by
  decide

/-- The number of a control character is read back from its digits. -/
lemma readHex_digits {n : ℕ} (hn : n < 0x20) (rest : List Char) :
    readHex ((Nat.toDigits 16 n).leftpad 4 '0' ++ rest) = .ok (n, rest) := by
  obtain ⟨hsize, hlength, hvalue⟩ := digits_of_control n hn
  obtain ⟨ds, hds, hfold⟩ := Option.map_eq_some_iff.1 hvalue
  rw [readHex, List.take_left' hlength, List.drop_left' hlength, hsize, if_neg (by omega), hds]
  exact congrArg (fun m => Except.ok (m, rest)) hfold

/-- A control character is read back from its number. -/
lemma readEscape_number {c : Char} (hc : c.toNat < 0x20) (rest : List Char) :
    readEscape ('u' :: (Nat.toDigits 16 c.toNat).leftpad 4 '0' ++ rest) = .ok (c, rest) := by
  have htrailing : isTrailing c.toNat = false := by
    rw [isTrailing, Bool.and_eq_false_iff, decide_eq_false_iff_not]
    exact .inl (by omega)
  have hleading : isLeading c.toNat = false := by
    rw [isLeading, Bool.and_eq_false_iff, decide_eq_false_iff_not]
    exact .inl (by omega)
  rw [List.cons_append]
  simp only [readEscape, readHex_digits hc, htrailing, hleading, Char.ofNat_toNat]
  rfl

/-! ### Strings -/

/-- An escape stands for one character of a string. -/
lemma readString_of_readEscape {r rest : List Char} {c : Char}
    (h : readEscape r = .ok (c, rest)) :
    readString ('\\' :: r) = (readString rest).map fun (s, rest) => (c :: s, rest) := by
  rw [readString]
  split
  next e he => rw [h] at he; cases he
  next c' rest' he =>
    rw [h] at he
    cases he
    rfl

/-- A character that needs no escape stands for itself. -/
lemma readString_cons {c : Char} (hquote : c ≠ '"') (hback : c ≠ '\\') (hc : ¬c.toNat < 0x20)
    (r : List Char) :
    readString (c :: r) = (readString r).map fun (s, rest) => (c :: s, rest) := by
  rw [readString]
  · rw [if_neg hc]
  · exact fun h => hquote h
  · exact fun h => hback h

/-- The written form of a character is read as the character. -/
lemma readString_escape (c : Char) (rest : List Char) :
    readString (escape c ++ rest) = (readString rest).map fun (s, rest) => (c :: s, rest) := by
  unfold escape
  split
  case h_8 =>
    split
    next hc => exact readString_of_readEscape (readEscape_number hc rest)
    next hc => exact readString_cons ‹_› ‹_› hc rest
  all_goals exact readString_of_readEscape rfl

/-- The written characters of a string are read up to its closing quote. -/
lemma readString_flatMap_escape (s rest : List Char) :
    readString (s.flatMap escape ++ '"' :: rest) = .ok (s, rest) := by
  induction s with
  | nil => rw [List.flatMap_nil, List.nil_append, readString]
  | cons c s ih =>
    rw [List.flatMap_cons, List.append_assoc, readString_escape, ih]
    rfl

end Screening.Json
