/-
Letters, their lower case and their uppercase.

Lower case is that of ASCII: it moves the capitals `A` to `Z` and nothing else. Uppercase is that of
the whole of Unicode, read off two tables. A capital other than `I` and `S` is the uppercase of
itself and of its small letter alone: `ı` becomes `I` and `ſ` becomes `S`, and a capital that comes
out of a longer expansion, such as the `W` of `ẘ`, has a character beside it.

* `eq_of_toLower_eq`: a character whose lower case is no small letter is that lower case.
* `upper_cases`: the three ways in which a character gets its uppercase.
* `upper_eq_singleton_iff`: the characters whose uppercase is one given capital.
-/
import Mathlib.Data.List.Infix
import Screening.Text.Fold

namespace Screening.Text

/-! ### Lower case -/

/-- The code point of a lower case. -/
lemma toNat_toLower (c : Char) :
    c.toLower.toNat = if 65 ≤ c.toNat ∧ c.toNat ≤ 90 then c.toNat + 32 else c.toNat := by
  have hA : (c.val ≥ 'A'.val ∧ c.val ≤ 'Z'.val) ↔ 65 ≤ c.toNat ∧ c.toNat ≤ 90 := by
    rw [ge_iff_le, UInt32.le_iff_toNat_le, UInt32.le_iff_toNat_le]
    rfl
  unfold Char.toLower
  split
  next h =>
    rw [if_pos (hA.1 h)]
    have hc := hA.1 h
    show (c.val + ('a'.val - 'A'.val)).toNat = c.val.toNat + 32
    have hv : c.val.toNat ≤ 90 := hc.2
    rw [UInt32.toNat_add, show ('a'.val - 'A'.val).toNat = 32 from rfl]
    omega
  next h => rw [if_neg (fun h' => h (hA.2 h'))]

/-- A character whose lower case is no small letter is that lower case itself. -/
lemma eq_of_toLower_eq {c d : Char} (hd : ¬(97 ≤ d.toNat ∧ d.toNat ≤ 122)) (h : c.toLower = d) :
    c = d := by
  have hn := toNat_toLower c
  rw [h] at hn
  split at hn
  · omega
  · exact Char.toNat_inj.1 hn.symm

/-- The characters with the lower case of a capital are the capital and its small letter. -/
lemma toNat_of_toLower_eq {c x : Char} (hc : 65 ≤ c.toNat ∧ c.toNat ≤ 90)
    (h : x.toLower = c.toLower) : x.toNat = c.toNat ∨ x.toNat = c.toNat + 32 := by
  have hn := congrArg Char.toNat h
  rw [toNat_toLower, toNat_toLower, if_pos hc] at hn
  split at hn <;> omega

/-! ### The tables of uppercase -/

/-- A code point has its expansion from the table. -/
lemma mem_of_findExpansion {n : ℕ} {ns : List ℕ} {table : List (ℕ × List ℕ)}
    (h : findExpansion n table = some ns) : (n, ns) ∈ table := by
  induction table with
  | nil => cases h
  | cons entry table ih =>
    obtain ⟨m, ms⟩ := entry
    rw [findExpansion] at h
    split_ifs at h with h₁ h₂
    · cases h
      rw [h₂]
      exact List.mem_cons_self
    · exact List.mem_cons_of_mem _ (ih h)

/-- The code points of a run. -/
structure Shift.Covers (s : Shift) (n : ℕ) : Prop where
  first : s.first ≤ n
  last : n ≤ s.last
  step : (n - s.first) % s.step = 0

/-- A code point lies in the run that is found for it. -/
lemma mem_of_findShift {n : ℕ} {s : Shift} {table : List Shift}
    (h : findShift n table = some s) : s ∈ table ∧ s.Covers n := by
  induction table with
  | nil => cases h
  | cons entry table ih =>
    rw [findShift] at h
    split_ifs at h with h₁ h₂
    · cases h
      exact ⟨List.mem_cons_self, h₂.1, h₁, h₂.2⟩
    · exact ⟨List.mem_cons_of_mem _ (ih h).1, (ih h).2⟩

/-- The uppercase of a character is its expansion, one character at a distance, or itself. -/
lemma upper_cases (c : Char) :
    (∃ ns, (c.toNat, ns) ∈ expansions ∧ upper c = ns.map Char.ofNat) ∨
      (∃ s ∈ shifts, s.Covers c.toNat ∧
        upper c = [Char.ofNat (c.toNat + s.distance).toNat]) ∨
      upper c = [c] := by
  rw [upper]
  cases he : findExpansion c.toNat expansions with
  | some ns => exact .inl ⟨ns, mem_of_findExpansion he, rfl⟩
  | none =>
    cases hs : findShift c.toNat shifts with
    | some s =>
      obtain ⟨hmem, hcovers⟩ := mem_of_findShift hs
      exact .inr (.inl ⟨s, hmem, hcovers, rfl⟩)
    | none => exact .inr (.inr rfl)

/-- An expansion has several characters. -/
lemma two_le_length_of_mem_expansions : ∀ e ∈ expansions, 2 ≤ e.2.length := by
  decide

/-- The uppercase of a character is one character or an expansion of the table. -/
lemma upper_eq_singleton_or (c : Char) :
    (∃ d, upper c = [d]) ∨ ∃ e ∈ expansions, upper c = e.2.map Char.ofNat := by
  rcases upper_cases c with ⟨ns, hmem, h⟩ | ⟨s, -, -, h⟩ | h
  · exact .inr ⟨_, hmem, h⟩
  · exact .inl ⟨_, h⟩
  · exact .inl ⟨_, h⟩

/-! ### Capitals -/

/-- The capitals that only they themselves and their small letters have as uppercase. -/
def IsOwnCapital (c : Char) : Prop :=
  (65 ≤ c.toNat ∧ c.toNat ≤ 90) ∧ c ≠ 'I' ∧ c ≠ 'S'

instance (c : Char) : Decidable (IsOwnCapital c) :=
  inferInstanceAs (Decidable (_ ∧ _))

/-- Only a small letter is moved to a capital other than `I` and `S`. -/
lemma eq_small_of_shift : ∀ s ∈ shifts, ∀ n ∈ List.range' 65 26, n ≠ 73 → n ≠ 83 →
    (s.first : ℤ) ≤ n - s.distance → (n : ℤ) - s.distance ≤ s.last → s.distance = -32 := by
  decide +kernel

/-- The uppercase of a capital and of its small letter is the capital. -/
lemma upper_ofNat_capital : ∀ n ∈ List.range' 65 26,
    upper (Char.ofNat n) = [Char.ofNat n] ∧ upper (Char.ofNat (n + 32)) = [Char.ofNat n] := by
  decide +kernel

/-- A character that a code point stands for, if it is not the null character. -/
lemma toNat_of_ofNat_eq {n : ℕ} {c : Char} (hc : c.toNat ≠ 0) (h : Char.ofNat n = c) :
    c.toNat = n := by
  by_cases hn : n.isValidChar
  · rw [Char.ofNat, dif_pos hn] at h
    rw [← h]
    rfl
  · rw [Char.ofNat, dif_neg hn] at h
    rw [← h] at hc
    exact absurd rfl hc

/-- A capital other than `I` and `S` is the uppercase of itself and of its small letter alone. -/
lemma upper_eq_singleton_iff {c x : Char} (hc : IsOwnCapital c) :
    upper x = [c] ↔ x.toLower = c.toLower := by
  obtain ⟨hrange, hI, hS⟩ := hc
  have hmem : c.toNat ∈ List.range' 65 26 := List.mem_range'_1.2 (by omega)
  obtain ⟨hcapital, hsmall⟩ := upper_ofNat_capital c.toNat hmem
  rw [Char.ofNat_toNat] at hcapital hsmall
  constructor
  · intro h
    rcases upper_cases x with ⟨ns, hns, hx⟩ | ⟨s, hs, ⟨hfirst, hlast, -⟩, hx⟩ | hx
    · have htwo : 2 ≤ ns.length := two_le_length_of_mem_expansions _ hns
      have hone := congrArg List.length (h.symm.trans hx)
      rw [List.length_singleton, List.length_map] at hone
      omega
    · rw [h, List.singleton_inj] at hx
      have hn := toNat_of_ofNat_eq (by omega) hx.symm
      have hI' : c.toNat ≠ 73 := fun e => hI (Char.toNat_inj.1 e)
      have hS' : c.toNat ≠ 83 := fun e => hS (Char.toNat_inj.1 e)
      have hd := eq_small_of_shift s hs c.toNat hmem hI' hS' (by omega) (by omega)
      have hx' : x.toNat = c.toNat + 32 := by omega
      refine Char.toNat_inj.1 ?_
      rw [toNat_toLower, toNat_toLower, if_pos hrange, if_neg (by omega), hx']
    · rw [h, List.singleton_inj] at hx
      rw [hx]
  · intro h
    rcases toNat_of_toLower_eq hrange h with hx | hx
    · rw [Char.toNat_inj.1 hx, hcapital]
    · rw [← hsmall, ← hx, Char.ofNat_toNat]

end Screening.Text
