/-
Whole numbers that are kept as doubles.

Up to `2 ^ 53` every whole number is a double. Around it no other whole number rounds to the same
double, but for `2 ^ 53` itself, whose successor does; and as that is odd, no shorter decimal than the
digits of the number reads back as the double. So below `10 ^ 15`, where the number is written as an
integer, and above, where the shortest digits are searched, its text consists of its digits; a cell
with the double is read as one with the integer.

* `Binary64.IsInt`, `Binary64.isInt_nearest`: the doubles that are whole numbers.
* `Binary64.Interval.Encloses`, `Binary64.encloses_interval`: the numbers that round to one of them.
* `Binary64.Interval.Encloses.pointOn?_eq`, `Binary64.Interval.Encloses.firstPoint_eq`: a grid has a
  point for the double if the number is on it, and the search ends at such a grid.
* `Binary64.IsInt.cellText_eq`: the two ways of writing a whole number agree.
* `Cell.whole_number_kept_as_float`: cells with the integer and with the double.
-/
import Mathlib.Tactic.Ring
import Screening.Proofs.Lengths
import Screening.Proofs.Reading
import Screening.Proofs.Rounding

namespace Screening

/-! ### Trailing zeros -/

/-- Zeros behind the digits of a number multiply it by a power of ten. -/
lemma toDigits_append_zeros {n : ℕ} (hn : 0 < n) (k : ℕ) :
    Nat.toDigits 10 n ++ List.replicate k '0' = Nat.toDigits 10 (n * 10 ^ k) := by
  induction k with
  | zero => rw [List.replicate_zero, List.append_nil, Nat.pow_zero, Nat.mul_one]
  | succ k ih =>
    have hpos : 0 < n * 10 ^ k := Nat.mul_pos hn (Nat.pow_pos (by decide))
    have hzero := Nat.toDigits_append_toDigits (b := 10) (d := 0) (by decide) hpos (by decide)
    rw [List.replicate_succ', ← List.append_assoc, ih, Nat.pow_succ, ← Nat.mul_assoc, Nat.mul_comm _ 10]
    exact hzero

/-- A whole multiple of a power of ten is written with all its digits. -/
lemma Decimal.positional_eq {n k : ℕ} (hn : 0 < n) (hdvd : 10 ^ k ∣ n) :
    positional ⟨n / 10 ^ k, k⟩ = Nat.toDigits 10 n := by
  have hquotient : 0 < n / 10 ^ k := Nat.div_pos (Nat.le_of_dvd hn hdvd) (Nat.pow_pos (by decide))
  rw [positional, if_pos (Int.natCast_nonneg k), digits, Int.toNat_natCast,
    toDigits_append_zeros hquotient, Nat.div_mul_cancel hdvd]

namespace Binary64

/-! ### Doubles that are whole numbers -/

/-- A double is a whole number. Both zeros are zero. -/
structure IsInt (x : Binary64) (n : ℤ) : Prop where
  finite : x.isFinite = true
  units : x.signedUnits = n * one

lemma one_pos : 0 < one := by
  decide +kernel

/-- The number of units in one is a power of two. -/
lemma exists_one_eq : ∃ k, k = 1074 ∧ one = 2 ^ k := by
  obtain ⟨k, hk⟩ : ∃ k, k = 1074 := ⟨_, rfl⟩
  refine ⟨k, hk, ?_⟩
  unfold one
  rw [← hk, Nat.pow_eq]

/-- What is a double is rounded to it. -/
lemma word_unitsOf (m : ℕ) : word (unitsOf m) 1 = m := by
  have hexact (num den : ℕ) (hden : 0 < den) : divEven (num * den) den = num := by
    rw [divEven, Nat.mul_mod_left, Nat.mul_div_cancel _ hden, if_pos (by omega)]
  have hsplit := Nat.div_add_mod m (2 ^ 52)
  rw [word, Nat.div_one, Nat.one_mul]
  by_cases hsmall : m / 2 ^ 52 = 0
  · have hunits : unitsOf m = m := by
      rw [unitsOf, if_pos hsmall, hsmall]
      show m % 2 ^ 52 * 2 ^ 0 = m
      omega
    have hlog : m.log2 - 52 = 0 := by
      have hlt : m.log2 < 53 := by
        by_cases hzero : m = 0
        · rw [hzero]
          decide
        · exact (Nat.log2_lt hzero).2 (by omega)
      omega
    have hround := hexact m 1 Nat.one_pos
    rw [Nat.mul_one] at hround
    rw [hunits, hlog, Nat.pow_zero, hround]
    exact Nat.zero_add m
  · have hunits : unitsOf m = (2 ^ 52 + m % 2 ^ 52) * 2 ^ (m / 2 ^ 52 - 1) := by
      rw [unitsOf, if_neg hsmall, Nat.max_eq_left (by omega)]
    have hlog : (unitsOf m).log2 = 52 + (m / 2 ^ 52 - 1) := by
      have hlt := Nat.mod_lt m (Nat.two_pow_pos 52)
      rw [hunits]
      refine (Nat.log2_eq_iff (by positivity)).2 ⟨?_, ?_⟩
      · rw [Nat.pow_add]
        exact Nat.mul_le_mul_right _ (by omega)
      · rw [Nat.add_right_comm, Nat.pow_add]
        exact Nat.mul_lt_mul_of_pos_right (by omega) (Nat.two_pow_pos _)
    have hspacing : (unitsOf m).log2 - 52 = m / 2 ^ 52 - 1 := by omega
    rw [hspacing, hunits, hexact _ _ (Nat.two_pow_pos _)]
    have hone : (m / 2 ^ 52 - 1) * 2 ^ 52 + 2 ^ 52 = 2 ^ 52 * (m / 2 ^ 52) := by
      obtain ⟨e, he⟩ := Nat.exists_eq_succ_of_ne_zero hsmall
      rw [he]
      omega
    omega

/-- The units of a significand with its leading bit. -/
lemma unitsOf_of_leading {significand : ℕ} (hlow : 2 ^ 52 ≤ significand)
    (hhigh : significand < 2 ^ 53) (spacing : ℕ) :
    unitsOf (spacing * 2 ^ 52 + significand) = significand * 2 ^ spacing := by
  have hfield : (spacing * 2 ^ 52 + significand) / 2 ^ 52 = spacing + 1 := by omega
  have hfraction : 2 ^ 52 + (spacing * 2 ^ 52 + significand) % 2 ^ 52 = significand := by omega
  rw [unitsOf, hfield, if_neg (Nat.succ_ne_zero spacing), hfraction,
    Nat.max_eq_left (Nat.succ_pos spacing), Nat.succ_sub_one]

/-- A whole number up to `2 ^ 53` has the units of a finite double. -/
lemma exists_unitsOf_eq {n : ℕ} (hn : n ≤ 2 ^ 53) : ∃ m < endless, unitsOf m = n * one := by
  have hendless : endless = 2047 * 2 ^ 52 := rfl
  obtain ⟨k, hk, hone⟩ := exists_one_eq
  by_cases hzero : n = 0
  · refine ⟨0, by omega, ?_⟩
    rw [hzero, Nat.zero_mul]
    rfl
  by_cases hlast : n = 2 ^ 53
  · refine ⟨(k + 1) * 2 ^ 52 + 2 ^ 52, by omega, ?_⟩
    rw [unitsOf_of_leading le_rfl (by omega), hlast, hone]
    ring
  · -- the significand is the number, moved until it has its leading bit
    have hlog : n.log2 ≤ 52 := by
      have hlt := (Nat.log2_lt hzero).2 (lt_of_le_of_ne hn hlast)
      omega
    have hlow : 2 ^ 52 ≤ n * 2 ^ (52 - n.log2) := by
      have hpow : 2 ^ 52 = 2 ^ n.log2 * 2 ^ (52 - n.log2) := by
        rw [← Nat.pow_add, Nat.add_sub_cancel' hlog]
      rw [hpow]
      exact Nat.mul_le_mul_right _ (Nat.log2_self_le hzero)
    have hhigh : n * 2 ^ (52 - n.log2) < 2 ^ 53 := by
      have hsum : n.log2 + 1 + (52 - n.log2) = 53 := by omega
      have hpow : 2 ^ 53 = 2 ^ (n.log2 + 1) * 2 ^ (52 - n.log2) := by
        rw [← Nat.pow_add, hsum]
      rw [hpow]
      exact Nat.mul_lt_mul_of_pos_right Nat.lt_log2_self (Nat.two_pow_pos _)
    refine ⟨(1022 + n.log2) * 2 ^ 52 + n * 2 ^ (52 - n.log2), by omega, ?_⟩
    have hexponent : 52 - n.log2 + (1022 + n.log2) = k := by omega
    rw [unitsOf_of_leading hlow hhigh, Nat.mul_assoc, ← Nat.pow_add, hexponent, hone]

/-- **Whole numbers up to `2 ^ 53` are doubles**, zero with either sign. -/
lemma isInt_nearest {n : ℤ} (hn : n.natAbs ≤ 2 ^ 53) {negative : Bool}
    (hsign : n ≠ 0 → negative = decide (n < 0)) :
    (nearest negative (n.natAbs * one) 1).IsInt n := by
  obtain ⟨m, hm, hunits⟩ := exists_unitsOf_eq hn
  have hmagnitude : (nearest negative (n.natAbs * one) 1).magnitude = m := by
    rw [← hunits, magnitude_nearest, word_unitsOf, Nat.min_eq_left hm.le]
  refine ⟨?_, ?_⟩
  · rw [isFinite, exponentField_eq, hmagnitude, bne_iff_ne]
    intro hfield
    have hendless : endless = 2047 * 2 ^ 52 := rfl
    omega
  · rw [signedUnits, isNegative_nearest, units_eq, hmagnitude, hunits]
    by_cases hzero : n = 0
    · rw [hzero, Int.natAbs_zero, Nat.zero_mul, Int.zero_mul]
      cases negative <;> rfl
    · rw [hsign hzero]
      by_cases hneg : n < 0
      · rw [decide_eq_true hneg, if_pos rfl, Nat.cast_mul, ← Int.neg_mul,
          Int.ofNat_natAbs_of_nonpos hneg.le, Int.neg_neg]
      · rw [decide_eq_false hneg, if_neg Bool.false_ne_true, Nat.cast_mul,
          Int.natAbs_of_nonneg (Int.not_lt.1 hneg)]

/-- The magnitude of a whole number. -/
lemma IsInt.units_eq {x : Binary64} {n : ℤ} (h : x.IsInt n) : x.units = n.natAbs * one := by
  have hunits := congrArg Int.natAbs h.units
  rw [Int.natAbs_mul, Int.natAbs_natCast] at hunits
  rw [← hunits, signedUnits]
  split
  · rw [Int.natAbs_neg, Int.natAbs_natCast]
  · rw [Int.natAbs_natCast]

/-- The whole part of a whole number. -/
lemma IsInt.truncate_eq {x : Binary64} {n : ℤ} (h : x.IsInt n) : x.truncate = n := by
  have hone : (one : ℤ) ≠ 0 := Int.natCast_ne_zero.2 one_pos.ne'
  rw [truncate, h.units, Int.mul_tdiv_cancel _ hone]

lemma IsInt.isWhole {x : Binary64} {n : ℤ} (h : x.IsInt n) : x.isWhole = true := by
  rw [Binary64.isWhole, h.finite, h.units_eq, Nat.mul_mod_left]
  rfl

/-- But for zero, a whole number has the sign of its double. -/
lemma IsInt.isNegative_iff {x : Binary64} {n : ℤ} (h : x.IsInt n) (hn : n ≠ 0) :
    x.isNegative = true ↔ n < 0 := by
  have hone : (0 : ℤ) < one := Int.natCast_pos.2 one_pos
  have hunits := h.units
  have hmagnitude : (0 : ℤ) ≤ x.units := Int.natCast_nonneg _
  rw [signedUnits] at hunits
  split at hunits
  next hneg =>
    refine iff_of_true hneg (lt_of_le_of_ne ?_ hn)
    by_contra hpos
    have hproduct := Int.mul_pos (Int.not_le.1 hpos) hone
    omega
  next hneg =>
    refine iff_of_false hneg (Int.not_lt.2 ?_)
    by_contra hlt
    have hproduct := Int.mul_neg_of_neg_of_pos (Int.not_le.1 hlt) hone
    omega

/-! ### The numbers that round to a whole number -/

/-- An interval encloses a whole number and no other one, except that the next one may be its end; it
is odd then. -/
structure Interval.Encloses (i : Interval) (n : ℕ) : Prop where
  middle : i.middle = 4 * (n * one)
  low : 4 * (n * one) ≤ i.low + 2 * one
  below : i.low < i.middle
  above : i.middle < i.high
  high : i.high ≤ 4 * (n * one) + 4 * one
  next : i.high < 4 * (n * one) + 4 * one ∨ n % 2 = 0

/-- Up to `2 ^ 53` the spacing of doubles is at most one, and two above that number. -/
lemma spacing_cases {x : Binary64} {n : ℕ} (hunits : x.units = n * one) (hpos : 0 < n)
    (hn : n ≤ 2 ^ 53) :
    2 ^ x.spacing ≤ one ∨
      n = 2 ^ 53 ∧ x.significand = 2 ^ 52 ∧ 0 < x.spacing ∧ 2 ^ x.spacing = 2 * one := by
  obtain ⟨k, hk, hone⟩ := exists_one_eq
  have hproduct : x.significand * 2 ^ x.spacing = n * one := hunits
  by_cases hspacing : x.spacing ≤ k
  · rw [hone]
    exact .inl (Nat.pow_le_pow_right Nat.two_pos hspacing)
  · right
    obtain ⟨j, hj⟩ : ∃ j, x.spacing = k + (j + 1) := ⟨x.spacing - k - 1, by omega⟩
    have hleading : 2 ^ 52 ≤ x.significand := by
      have hfield : x.exponentField ≠ 0 := by
        intro hzero
        rw [spacing, hzero] at hj
        omega
      rw [significand, if_neg hfield]
      exact Nat.le_add_right _ _
    have hstep : 2 ^ x.spacing = 2 ^ (j + 1) * one := by
      rw [hj, Nat.pow_add, hone, Nat.mul_comm]
    have hnumber : x.significand * 2 ^ (j + 1) = n := by
      rw [hstep, ← Nat.mul_assoc] at hproduct
      exact Nat.eq_of_mul_eq_mul_right one_pos hproduct
    have hj : j = 0 := by
      by_contra hj
      have hpow : 2 ^ 2 ≤ 2 ^ (j + 1) := Nat.pow_le_pow_right Nat.two_pos (by omega)
      have hlarge := Nat.mul_le_mul hleading hpow
      omega
    rw [hj] at hnumber hstep
    omega

/-- The numbers that round to a whole number up to `2 ^ 53`. -/
lemma encloses_interval {x : Binary64} {n : ℕ} (hunits : x.units = n * one) (hpos : 0 < n)
    (hn : n ≤ 2 ^ 53) : x.interval.Encloses n := by
  have hone := one_pos
  have hlarge : 0 < n * one := Nat.mul_pos hpos hone
  have hstep : 0 < 2 ^ x.spacing := Nat.two_pow_pos _
  have hmiddle : x.interval.middle = 4 * x.units := rfl
  have hhigh : x.interval.high = 4 * x.units + 2 * 2 ^ x.spacing := rfl
  have hlow : x.interval.low = 4 * x.units -
      if x.significand = 2 ^ 52 ∧ 0 < x.spacing then 2 ^ x.spacing else 2 * 2 ^ x.spacing := rfl
  rcases spacing_cases hunits hpos hn with hspacing | ⟨hlast, hsignificand, hpositive, hspacing⟩
  · have hbelow : (if x.significand = 2 ^ 52 ∧ 0 < x.spacing then 2 ^ x.spacing
        else 2 * 2 ^ x.spacing) ≤ 2 * one ∧ 0 < (if x.significand = 2 ^ 52 ∧ 0 < x.spacing then
        2 ^ x.spacing else 2 * 2 ^ x.spacing) := by
      split <;> omega
    constructor <;> omega
  · rw [if_pos ⟨hsignificand, hpositive⟩] at hlow
    constructor <;> omega

namespace Interval.Encloses

variable {i : Interval} {n : ℕ}

/-- A point of a grid that lies in the interval is the number, or the next one if that is odd. -/
lemma of_holds (h : i.Encloses n) {e m : ℕ} (hm : i.holds 1 (4 * one * 10 ^ e) m = true) :
    m * 10 ^ e = n ∨ m * 10 ^ e = n + 1 ∧ n % 2 = 0 := by
  have hone := one_pos
  have hbounds : i.low ≤ 4 * (m * 10 ^ e * one) ∧ 4 * (m * 10 ^ e * one) ≤ i.high := by
    have hpoint : m * (4 * one * 10 ^ e) = 4 * (m * 10 ^ e * one) := by ring
    rw [holds, hpoint, Nat.mul_one, Nat.mul_one] at hm
    split at hm <;> rw [Bool.and_eq_true, decide_eq_true_eq, decide_eq_true_eq] at hm <;> omega
  obtain ⟨hlow, hhigh⟩ := hbounds
  generalize m * 10 ^ e = t at hlow hhigh ⊢
  have hcases := h.next
  have hfirst := h.low
  have hlast := h.high
  rcases Nat.lt_trichotomy t n with hlt | heq | hgt
  · have hmul : (t + 1) * one ≤ n * one := Nat.mul_le_mul_right _ hlt
    rw [Nat.add_mul] at hmul
    omega
  · exact .inl heq
  · have hmul : (n + 1) * one ≤ t * one := Nat.mul_le_mul_right _ hgt
    rw [Nat.add_mul] at hmul
    by_cases hnext : t = n + 1
    · refine .inr ⟨hnext, hcases.resolve_left ?_⟩
      omega
    · have hmul : (n + 2) * one ≤ t * one := Nat.mul_le_mul_right _ (by omega)
      rw [Nat.add_mul] at hmul
      omega

/-- The number itself lies in the interval. -/
lemma holds_self (h : i.Encloses n) {e m : ℕ} (hm : m * 10 ^ e = n) :
    i.holds 1 (4 * one * 10 ^ e) m = true := by
  have hmiddle := h.middle
  have hbelow := h.below
  have habove := h.above
  have hpoint : m * (4 * one * 10 ^ e) = 4 * (n * one) := by
    rw [← hm]
    ring
  rw [holds, hpoint, Nat.mul_one, Nat.mul_one]
  split <;> rw [Bool.and_eq_true, decide_eq_true_eq, decide_eq_true_eq] <;> omega

/-- A grid has a point in the interval exactly if the number is on it. -/
lemma pointOn?_eq (h : i.Encloses n) (tie : Tie) (e : ℕ) :
    i.pointOn? tie e = if 10 ^ e ∣ n then some (n / 10 ^ e) else none := by
  have hscale : 0 < 4 * one := Nat.mul_pos (by decide) one_pos
  have hpow : 0 < 10 ^ e := Nat.pow_pos (by decide)
  have hfactor : Nat.pow 10 (-(e : ℤ)).toNat = 1 := by
    rw [Int.toNat_neg_natCast, Nat.pow_eq, Nat.pow_zero]
  have hmiddle : i.middle = 4 * one * n := by
    rw [h.middle]
    ring
  rw [pointOn?, hfactor, Int.toNat_natCast, Nat.pow_eq, Nat.mul_one, hmiddle, Nat.mul_div_mul_left _ _ hscale,
    Nat.mul_mod_mul_left]
  by_cases hdvd : 10 ^ e ∣ n
  · have hself := h.holds_self (Nat.div_mul_cancel hdvd)
    rw [hself, if_pos hdvd, Nat.mod_eq_zero_of_dvd hdvd, Nat.mul_zero]
    split
    next => rw [Tie.choose.eq_def, if_pos (Nat.mul_pos hscale hpow)]
    next => rfl
    next hfirst _ => cases hfirst
    next hfirst _ => cases hfirst
  · have hdivMod := Nat.div_add_mod' n (10 ^ e)
    have hmod := Nat.mod_lt n hpow
    have hfloor : i.holds 1 (4 * one * 10 ^ e) (n / 10 ^ e) = false := by
      rw [← Bool.not_eq_true]
      intro hholds
      rcases h.of_holds hholds with heq | ⟨hnext, -⟩
      · exact hdvd ⟨_, (heq.symm.trans (Nat.mul_comm _ _))⟩
      · omega
    have hceil : i.holds 1 (4 * one * 10 ^ e) (n / 10 ^ e + 1) = false := by
      rw [← Bool.not_eq_true]
      intro hholds
      rcases h.of_holds hholds with heq | ⟨hnext, heven⟩
      · exact hdvd ⟨_, (heq.symm.trans (Nat.mul_comm _ _))⟩
      · -- the next number is odd, so it is on no grid but that of the whole numbers
        cases e with
        | zero => exact hdvd ⟨n, (Nat.one_mul n).symm⟩
        | succ e =>
          generalize n / 10 ^ (e + 1) + 1 = m at hnext
          rw [Nat.pow_succ, ← Nat.mul_assoc] at hnext
          omega
    rw [hfloor, hceil, if_neg hdvd]

/-- The search from a grid of whole numbers ends at a grid that the number is on. -/
lemma firstPoint_eq (h : i.Encloses n) (tie : Tie) {count e : ℕ} (he : e ≤ count) :
    ∃ k : ℕ, 10 ^ k ∣ n ∧ i.firstPoint tie count e = ⟨n / 10 ^ k, k⟩ := by
  have hwhole : 10 ^ 0 ∣ n := by
    rw [Nat.pow_zero]
    exact Nat.one_dvd n
  induction count generalizing e with
  | zero =>
    obtain rfl : e = 0 := Nat.le_zero.1 he
    refine ⟨0, hwhole, ?_⟩
    rw [firstPoint, h.pointOn?_eq, if_pos hwhole]
    rfl
  | succ count ih =>
    rw [firstPoint, h.pointOn?_eq]
    by_cases hdvd : 10 ^ e ∣ n
    · rw [if_pos hdvd]
      exact ⟨e, hdvd, rfl⟩
    · rw [if_neg hdvd]
      cases e with
      | zero => exact absurd hwhole hdvd
      | succ e =>
        have hfiner : ((e + 1 : ℕ) : ℤ) - 1 = e := by omega
        dsimp only
        rw [hfiner]
        exact ih (by omega)

end Interval.Encloses

/-! ### The text of a whole number -/

/-- The search for the digits of a whole number starts at a grid of whole numbers. -/
lemma exists_startExponent_eq {x : Binary64} {n : ℕ} (hunits : x.units = n * one) (hpos : 0 < n)
    (hn : n ≤ 2 ^ 53) : ∃ e : ℕ, e ≤ 20 ∧ x.startExponent = e := by
  obtain ⟨k, hk, hone⟩ := exists_one_eq
  have hne : x.units ≠ 0 := by
    rw [hunits]
    exact (Nat.mul_pos hpos one_pos).ne'
  have hlow : k ≤ x.units.log2 := by
    rw [Nat.le_log2 hne, hunits, hone]
    exact Nat.le_mul_of_pos_left _ hpos
  have hhigh : x.units.log2 < 54 + k := by
    rw [Nat.log2_lt hne, hunits, hone, Nat.pow_add]
    exact Nat.mul_lt_mul_of_pos_right (by omega) (Nat.two_pow_pos k)
  refine ⟨x.startExponent.toNat, ?_, ?_⟩ <;> rw [startExponent] <;> omega

/-- **The shortest digits of a whole number** up to `2 ^ 53` are all its digits. -/
lemma positional_shortest {x : Binary64} {n : ℕ} (hunits : x.units = n * one) (hpos : 0 < n)
    (hn : n ≤ 2 ^ 53) (tie : Tie) : (x.shortest tie).positional = Nat.toDigits 10 n := by
  have hne : x.units ≠ 0 := by
    rw [hunits]
    exact (Nat.mul_pos hpos one_pos).ne'
  obtain ⟨e, he, hstart⟩ := exists_startExponent_eq hunits hpos hn
  obtain ⟨k, hdvd, hfirst⟩ := (encloses_interval hunits hpos hn).firstPoint_eq tie he
  rw [shortest, if_neg hne, hstart, hfirst, Decimal.positional_eq hpos hdvd]

/-- The text of a whole number other than zero is the one of the integer. -/
lemma IsInt.text_eq {x : Binary64} {n : ℤ} (h : x.IsInt n) (hn : n.natAbs ≤ 2 ^ 53) (hne : n ≠ 0) :
    x.text = toString n := by
  have hfield : x.exponentField ≠ 2047 := bne_iff_ne.1 h.finite
  have hnan : x.isNaN = false := by
    rw [isNaN, beq_false_of_ne hfield, Bool.false_and]
  have hinfinite : x.isInfinite = false := by
    rw [isInfinite, beq_false_of_ne hfield, Bool.false_and]
  rw [text, hnan, hinfinite, if_neg Bool.false_ne_true, if_neg Bool.false_ne_true,
    positional_shortest h.units_eq (Int.natAbs_pos.2 hne) hn, toString_int]
  simp only [h.isNegative_iff hne]

/-- **A whole number up to `2 ^ 53` has one text**, kept as a double or as an integer. -/
lemma IsInt.cellText_eq {x : Binary64} {n : ℤ} (h : x.IsInt n) (hn : n.natAbs ≤ 2 ^ 53) :
    x.cellText = toString n := by
  rw [cellText]
  split
  next => rw [h.truncate_eq]
  next hlarge =>
    refine h.text_eq hn ?_
    rintro rfl
    refine hlarge ?_
    rw [h.isWhole, h.units_eq, Int.natAbs_zero, Nat.zero_mul, Bool.true_and, decide_eq_true_eq]
    exact Nat.mul_pos (Nat.pow_pos (by decide)) one_pos

end Binary64

/-! ### Cells -/

namespace Cell

/-- A cell with a whole number as a double is read as one with the integer. -/
lemma sameReading_float {x : Binary64} {n : ℤ} (h : x.IsInt n) (hn : n.natAbs ≤ 2 ^ 53)
    (before after : Row) :
    Row.SameReading (before ++ .float x :: after) (before ++ .int n :: after) := by
  have htext : (Cell.float x).asText = (Cell.int n).asText := h.cellText_eq hn
  have hfloat := Row.sameReading_respelled before after (.number (.float x) (.inr ⟨x, rfl⟩))
  have hint := Row.sameReading_respelled before after (.number (.int n) (.inl ⟨n, rfl⟩))
  rw [htext] at hfloat
  exact hfloat.trans hint.symm

/-- **Whole numbers that are kept as doubles.** Up to `2 ^ 53` every whole number is a double, zero
with either sign. As a double and as an integer it has one text, its digits behind a minus sign if it
is negative; and in any column of a row it gives the same line. -/
theorem whole_number_kept_as_float {n : ℤ} (hn : |n| ≤ 2 ^ 53) :
    (∃ x : Binary64, x.IsInt n) ∧
    (n = 0 → ∀ negative, ∃ x : Binary64, x.isNegative = negative ∧ x.IsInt n) ∧
    (int n).asText =
      String.ofList ((if n < 0 then ['-'] else []) ++ Nat.toDigits 10 n.natAbs) ∧
    ∀ x : Binary64, x.IsInt n →
      (float x).asText = (int n).asText ∧
      ∀ (before after : Row) (criteria : Criteria),
        Line.ofRow? (before ++ .float x :: after) criteria =
          Line.ofRow? (before ++ .int n :: after) criteria := by
  have hbound : n.natAbs ≤ 2 ^ 53 := by
    rw [← Int.natCast_natAbs] at hn
    exact_mod_cast hn
  refine ⟨⟨_, Binary64.isInt_nearest hbound fun _ => rfl⟩, ?_, toString_int n, fun x hx => ?_⟩
  · intro hzero negative
    exact ⟨_, Binary64.isNegative_nearest negative _ _,
      Binary64.isInt_nearest hbound fun hne => absurd hzero hne⟩
  · refine ⟨hx.cellText_eq hbound, fun before after criteria => ?_⟩
    exact Line.ofRow?_eq_of_sameReading (sameReading_float hx hbound before after) criteria

/-- The double of `-2 ^ 53`, the one of `10 ^ 15`, which is written by the search, and the negative
zero. -/
theorem whole_number_kept_as_float_last :
    let last : Binary64 := ⟨0xC340000000000000⟩
    let searched : Binary64 := ⟨0x430C6BF526340000⟩
    let negativeZero : Binary64 := ⟨0x8000000000000000⟩
    |(-9007199254740992 : ℤ)| ≤ 2 ^ 53 ∧ last.IsInt (-9007199254740992) ∧
      (float last).asText = (int (-9007199254740992)).asText ∧
      (int (-9007199254740992)).asText = "-9007199254740992" ∧
      searched.IsInt 1000000000000000 ∧
      (float searched).asText = (int 1000000000000000).asText ∧
      negativeZero.IsInt 0 ∧ (float negativeZero).asText = (int 0).asText := by
  intro last searched negativeZero
  have hlast : last.IsInt (-9007199254740992) := ⟨by decide, by decide +kernel⟩
  have hsearched : searched.IsInt 1000000000000000 := ⟨by decide, by decide +kernel⟩
  have hzero : negativeZero.IsInt 0 := ⟨by decide, by decide +kernel⟩
  have hbound : |(-9007199254740992 : ℤ)| ≤ 2 ^ 53 := by decide
  obtain ⟨-, -, -, hcells⟩ := whole_number_kept_as_float hbound
  exact ⟨hbound, hlast, (hcells last hlast).1, by decide, hsearched,
    ((whole_number_kept_as_float (by decide)).2.2.2 searched hsearched).1, hzero,
    ((whole_number_kept_as_float (by decide)).2.2.2 negativeZero hzero).1⟩

end Cell

end Screening
