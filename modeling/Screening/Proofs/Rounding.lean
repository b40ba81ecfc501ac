/-
The order of doubles.

Apart from its sign a double is ordered as its bits are: the units of a finite double grow with
them, and behind the finite ones stand the infinity and the NaNs. Rounding keeps this order. So if a
number is made of a double by operations that keep order and is then rounded, it reaches a given
double exactly if the double that it was made of reaches another one, which two neighbours tell.

* `magnitude`, `unitsOf`: the bits without the sign, and the units that they stand for.
* `word`, `word_mono`: the bits of the nearest double, and rounding keeps order.
* `magnitude_nearest`, `isNegative_nearest`: what is rounded has these bits and the given sign.
* `Edge.le_iff`: the test against two neighbours.
* `isBelow_add_iff`, `isBelow_mul_iff`: sums and products that are below a bound.
-/
import Mathlib.Order.Monotone.Basic
import Mathlib.Tactic.NormNum
import Screening.Number.Binary64

namespace Screening.Binary64

/-! ### The bits of a double -/

/-- The bits of a double without its sign. -/
def magnitude (x : Binary64) : ℕ :=
  x.bits.toNat % 2 ^ 63

/-- The bits of an infinity without its sign. -/
def endless : ℕ :=
  2047 * 2 ^ 52

/-- The units of the finite double with some bits and no sign. -/
def unitsOf (m : ℕ) : ℕ :=
  (if m / 2 ^ 52 = 0 then m % 2 ^ 52 else 2 ^ 52 + m % 2 ^ 52) * 2 ^ (max (m / 2 ^ 52) 1 - 1)

variable (x : Binary64)

lemma isNegative_iff : x.isNegative = true ↔ 2 ^ 63 ≤ x.bits.toNat :=
  decide_eq_true_iff

lemma exponentField_eq : x.exponentField = x.magnitude / 2 ^ 52 := by
  have h : x.exponentField = x.bits.toNat / 2 ^ 52 % 2 ^ 11 := rfl
  rw [h, magnitude]
  omega

lemma fractionField_eq : x.fractionField = x.magnitude % 2 ^ 52 := by
  have h : x.fractionField = x.bits.toNat % 2 ^ 52 := rfl
  rw [h, magnitude]
  omega

lemma magnitude_lt : x.magnitude < 2 ^ 63 :=
  Nat.mod_lt _ (by norm_num)

lemma isNaN_iff : x.isNaN = true ↔ endless < x.magnitude := by
  have hlt := x.magnitude_lt
  rw [isNaN, Bool.and_eq_true, beq_iff_eq, bne_iff_ne, exponentField_eq, fractionField_eq, endless]
  omega

lemma isInfinite_iff : x.isInfinite = true ↔ x.magnitude = endless := by
  have hlt := x.magnitude_lt
  rw [isInfinite, Bool.and_eq_true, beq_iff_eq, beq_iff_eq, exponentField_eq, fractionField_eq,
    endless]
  omega

lemma units_eq : x.units = unitsOf x.magnitude := by
  have hsignificand : x.significand =
      if x.magnitude / 2 ^ 52 = 0 then x.magnitude % 2 ^ 52
      else 2 ^ 52 + x.magnitude % 2 ^ 52 := by
    rw [significand, exponentField_eq, fractionField_eq]
    rfl
  have hspacing : x.spacing = max (x.magnitude / 2 ^ 52) 1 - 1 := by
    rw [spacing, exponentField_eq]
  rw [units, hsignificand, hspacing, unitsOf]
  rfl

/-- The units grow with the bits. -/
lemma unitsOf_mono : Monotone unitsOf := by
  intro m m' h
  rw [unitsOf, unitsOf]
  by_cases he : m / 2 ^ 52 = m' / 2 ^ 52
  · rw [he]
    refine Nat.mul_le_mul_right _ ?_
    split_ifs <;> omega
  · have hlt : m / 2 ^ 52 < m' / 2 ^ 52 := by omega
    by_cases hzero : m / 2 ^ 52 = 0
    · rw [if_pos hzero, if_neg (by omega), hzero]
      calc m % 2 ^ 52 * 2 ^ (max 0 1 - 1)
          = m % 2 ^ 52 := by norm_num
        _ ≤ 2 ^ 52 + m' % 2 ^ 52 := by omega
        _ ≤ (2 ^ 52 + m' % 2 ^ 52) * 2 ^ (max (m' / 2 ^ 52) 1 - 1) :=
          Nat.le_mul_of_pos_right _ (by positivity)
    · -- the spacing at least doubles, and the significand is at most halved
      rw [if_neg hzero, if_neg (by omega)]
      calc (2 ^ 52 + m % 2 ^ 52) * 2 ^ (max (m / 2 ^ 52) 1 - 1)
          ≤ 2 ^ 53 * 2 ^ (max (m / 2 ^ 52) 1 - 1) := Nat.mul_le_mul_right _ (by omega)
        _ = 2 ^ 52 * 2 ^ (m / 2 ^ 52) := by
          rw [← pow_add, ← pow_add]
          congr 1
          omega
        _ ≤ 2 ^ 52 * 2 ^ (max (m' / 2 ^ 52) 1 - 1) :=
          Nat.mul_le_mul_left _ (Nat.pow_le_pow_right (by norm_num) (by omega))
        _ ≤ (2 ^ 52 + m' % 2 ^ 52) * 2 ^ (max (m' / 2 ^ 52) 1 - 1) :=
          Nat.mul_le_mul_right _ (by omega)

/-! ### Rounding -/

/-- A rounded quotient is the quotient or the next number. -/
lemma div_le_divEven (num den : ℕ) :
    num / den ≤ divEven num den ∧ divEven num den ≤ num / den + 1 := by
  rw [divEven]
  split_ifs <;> omega

/-- Rounding a quotient keeps order. -/
lemma divEven_mono (den : ℕ) : Monotone fun num => divEven num den := by
  intro num num' h
  dsimp only
  have hq := Nat.div_le_div_right (c := den) h
  rcases Nat.lt_or_eq_of_le hq with hlt | heq
  · have := (div_le_divEven num den).2
    have := (div_le_divEven num' den).1
    omega
  · have hr : num % den ≤ num' % den := by
      have h₁ := Nat.div_add_mod num den
      have h₂ := Nat.div_add_mod num' den
      rw [heq] at h₁
      omega
    rw [divEven, divEven, heq]
    split_ifs <;> omega

/-- The bits of the double nearest to `num / den` units, without its sign; too large a number has
the bits of a double beyond the last one. -/
def word (num den : ℕ) : ℕ :=
  let spacing := (num / den).log2 - 52
  spacing * 2 ^ 52 + divEven num (den * 2 ^ spacing)

/-- A number is rounded to a significand with its leading bit unless it is very small, and to no
more than the next power of two. -/
lemma word_bounds (num den : ℕ) :
    word num den ≤ ((num / den).log2 - 52) * 2 ^ 52 + 2 ^ 53 ∧
      (52 ≤ (num / den).log2 → ((num / den).log2 - 52) * 2 ^ 52 + 2 ^ 52 ≤ word num den) := by
  rw [word]
  have hround := div_le_divEven num (den * 2 ^ ((num / den).log2 - 52))
  rw [← Nat.div_div_eq_div_mul] at hround
  refine ⟨?_, fun hlog => ?_⟩
  · have hlt : num / den / 2 ^ ((num / den).log2 - 52) < 2 ^ 53 := by
      rw [Nat.div_lt_iff_lt_mul (by positivity), ← pow_add]
      exact lt_of_lt_of_le Nat.lt_log2_self (Nat.pow_le_pow_right (by norm_num) (by omega))
    omega
  · have hle : 2 ^ 52 ≤ num / den / 2 ^ ((num / den).log2 - 52) := by
      rw [Nat.le_div_iff_mul_le (by positivity), ← pow_add, Nat.add_sub_cancel' hlog]
      refine Nat.log2_self_le fun hzero => ?_
      rw [hzero] at hlog
      exact absurd hlog (by decide)
    omega

/-- Rounding keeps order. -/
lemma word_mono (den : ℕ) : Monotone fun num => word num den := by
  intro num num' h
  dsimp only
  have hlog : (num / den).log2 ≤ (num' / den).log2 := by
    have hdiv := Nat.div_le_div_right (c := den) h
    by_cases hzero : num / den = 0
    · simp [hzero]
    · have hzero' : num' / den ≠ 0 := fun h' => hzero (Nat.le_zero.1 (h' ▸ hdiv))
      exact (Nat.le_log2 hzero').2 (le_trans (Nat.log2_self_le hzero) hdiv)
  by_cases hspacing : (num / den).log2 - 52 = (num' / den).log2 - 52
  · rw [word, word, hspacing]
    exact Nat.add_le_add_left (divEven_mono _ h) _
  · have hupper := (word_bounds num den).1
    have hlower := (word_bounds num' den).2 (by omega)
    omega

/-- What is rounded has the given sign and the bits of the nearest double, or of an infinity. -/
lemma toNat_nearest (negative : Bool) (num den : ℕ) :
    (nearest negative num den).bits.toNat = signBit negative + min (word num den) endless := by
  have hword : nearest negative num den =
      if word num den < endless then ⟨UInt64.ofNat (signBit negative + word num den)⟩
      else ⟨UInt64.ofNat (signBit negative + endless)⟩ := rfl
  have hsign : signBit negative ≤ 2 ^ 63 := by cases negative <;> decide
  have hendless : endless = 2047 * 2 ^ 52 := rfl
  have hsize : UInt64.size = 2 ^ 64 := rfl
  rw [hword]
  split_ifs with hlt
  · rw [UInt64.toNat_ofNat_of_lt' (by omega), min_eq_left (by omega)]
  · rw [UInt64.toNat_ofNat_of_lt' (by omega), min_eq_right (by omega)]

lemma isNegative_nearest (negative : Bool) (num den : ℕ) :
    (nearest negative num den).isNegative = negative := by
  have hendless : endless = 2047 * 2 ^ 52 := rfl
  have htrue : signBit true = 2 ^ 63 := rfl
  have hfalse : signBit false = 0 := rfl
  rw [Bool.eq_iff_iff, isNegative_iff, toNat_nearest]
  cases negative
  · rw [hfalse]
    exact iff_of_false (by omega) nofun
  · rw [htrue]
    exact iff_of_true (by omega) rfl

lemma magnitude_nearest (negative : Bool) (num den : ℕ) :
    (nearest negative num den).magnitude = min (word num den) endless := by
  have hendless : endless = 2047 * 2 ^ 52 := rfl
  have htrue : signBit true = 2 ^ 63 := rfl
  have hfalse : signBit false = 0 := rfl
  rw [magnitude, toNat_nearest]
  cases negative <;> omega

/-! ### Tests against a double -/

/-- A double is a number at or below the negative double with these bits. -/
structure IsBelow (bound : ℕ) (x : Binary64) : Prop where
  negative : x.isNegative = true
  far : bound ≤ x.magnitude
  number : x.magnitude ≤ endless

/-- The first double whose value under some function of the bits reaches a bound. -/
structure Edge (f : ℕ → ℕ) (bound edge : ℕ) : Prop where
  mono : Monotone f
  below : f (edge - 1) < bound
  above : bound ≤ f edge
  number : edge ≤ endless

/-- The doubles that reach a bound are those from the first one on. -/
lemma Edge.le_iff {f : ℕ → ℕ} {bound edge m : ℕ} (h : Edge f bound edge) :
    bound ≤ f m ↔ edge ≤ m := by
  constructor
  · intro hm
    by_contra hlt
    exact absurd (lt_of_le_of_lt (h.mono (by omega : m ≤ edge - 1)) h.below) (Nat.not_lt.2 hm)
  · intro hm
    exact h.above.trans (h.mono hm)

variable {x : Binary64}

lemma not_isBelow_of_isNaN {bound : ℕ} (h : x.isNaN = true) : ¬IsBelow bound x :=
  fun hbelow => absurd hbelow.number (Nat.not_le.2 (x.isNaN_iff.1 h))

lemma isBelow_iff_of_not_isNaN {bound : ℕ} (h : x.isNaN = false) :
    IsBelow bound x ↔ x.isNegative = true ∧ bound ≤ x.magnitude := by
  refine ⟨fun hbelow => ⟨hbelow.negative, hbelow.far⟩, fun ⟨hnegative, hfar⟩ => ?_⟩
  refine ⟨hnegative, hfar, Nat.not_lt.1 fun hlt => ?_⟩
  rw [x.isNaN_iff.2 hlt] at h
  cases h

/-- The negative infinity is below every double. -/
lemma isBelow_iff_of_isInfinite {bound : ℕ} (hbound : bound ≤ endless) (h : x.isInfinite = true) :
    IsBelow bound x ↔ x.isNegative = true := by
  have hmagnitude := x.isInfinite_iff.1 h
  exact ⟨fun hbelow => hbelow.negative, fun hnegative =>
    ⟨hnegative, hbound.trans_eq hmagnitude.symm, hmagnitude.le⟩⟩

lemma isBelow_nearest_iff {bound num den : ℕ} {negative : Bool} (hbound : bound ≤ endless) :
    IsBelow bound (nearest negative num den) ↔ negative = true ∧ bound ≤ word num den := by
  constructor
  · rintro ⟨hnegative, hfar, -⟩
    rw [isNegative_nearest] at hnegative
    rw [magnitude_nearest] at hfar
    exact ⟨hnegative, hfar.trans (min_le_left _ _)⟩
  · rintro ⟨hnegative, hfar⟩
    refine ⟨(isNegative_nearest _ _ _).trans hnegative, ?_, ?_⟩
    · rw [magnitude_nearest]
      exact le_min hfar hbound
    · rw [magnitude_nearest]
      exact min_le_right _ _

/-- A positive finite double, by which others are moved or multiplied. -/
structure IsPositive (y : Binary64) : Prop where
  notNaN : y.isNaN = false
  finite : y.isInfinite = false
  sign : y.isNegative = false
  units : 0 < y.units

/-- A sum that is not below zero is not negative. -/
lemma sumSign_of_nonneg {sum : ℤ} (h : 0 ≤ sum) :
    (if sum = 0 then false else decide (sum < 0)) = false := by
  split_ifs
  · rfl
  · exact decide_eq_false (Int.not_lt.2 h)

/-- A sum with a positive double is below a bound if the other term is below the edge. -/
lemma isBelow_add_iff {y : Binary64} (hy : y.IsPositive) {bound edge : ℕ} (hpos : 0 < bound)
    (hbound : bound ≤ endless) (hedge : Edge (fun m => word (unitsOf m - y.units) 1) bound edge) :
    IsBelow bound (x.add y) ↔ IsBelow edge x := by
  obtain ⟨hynan, hyfinite, hysign, -⟩ := hy
  cases hnan : x.isNaN with
  | true =>
    rw [add, hnan, Bool.true_or, if_pos rfl]
    exact iff_of_false (fun h => absurd h.negative (by decide)) (not_isBelow_of_isNaN hnan)
  | false =>
  cases hinfinite : x.isInfinite with
  | true =>
    have hsum : x.add y = x := by simp [add, hnan, hynan, hinfinite, hyfinite]
    rw [hsum, isBelow_iff_of_isInfinite hbound hinfinite,
      isBelow_iff_of_isInfinite hedge.number hinfinite]
  | false =>
    have hsum : x.add y =
        nearest (if x.signedUnits + y.signedUnits = 0 then x.isNegative && y.isNegative
          else decide (x.signedUnits + y.signedUnits < 0))
          (x.signedUnits + y.signedUnits).natAbs 1 := by
      simp [add, hnan, hynan, hinfinite, hyfinite]
    have hterm : y.signedUnits = y.units := by simp [signedUnits, hysign]
    rw [hsum, isBelow_nearest_iff hbound, isBelow_iff_of_not_isNaN hnan, hterm, hysign,
      Bool.and_false, ← hedge.le_iff, ← units_eq]
    cases hnegative : x.isNegative with
    | false =>
      have hunits : x.signedUnits = x.units := by simp [signedUnits, hnegative]
      rw [hunits, sumSign_of_nonneg (by omega)]
      exact iff_of_false (fun h => nomatch h.1) nofun
    | true =>
      have hunits : x.signedUnits = -x.units := by simp [signedUnits, hnegative]
      rw [hunits]
      by_cases hlt : y.units < x.units
      · have hnatAbs : (-(x.units : ℤ) + y.units).natAbs = x.units - y.units := by omega
        rw [if_neg (by omega), decide_eq_true (by omega), hnatAbs]
      · -- the sum is not negative, so it is no more below than zero is
        have hzero : word 0 1 = 0 := by decide
        rw [Nat.sub_eq_zero_of_le (Nat.not_lt.1 hlt), hzero, sumSign_of_nonneg (by omega)]
        exact iff_of_false (fun h => nomatch h.1) fun h => absurd h.2 (Nat.not_le.2 hpos)

lemma isNegative_infinity (negative : Bool) : (infinity negative).isNegative = negative := by
  cases negative <;> decide

lemma isInfinite_infinity (negative : Bool) : (infinity negative).isInfinite = true := by
  cases negative <;> decide

lemma isFinite_of_isInfinite (h : x.isInfinite = true) : x.isFinite = false := by
  rw [isInfinite, Bool.and_eq_true, beq_iff_eq] at h
  rw [isFinite, h.1]
  rfl

/-- A product with a positive double is below a bound if the other factor is below the edge. -/
lemma isBelow_mul_iff {y : Binary64} (hy : y.IsPositive) {bound edge : ℕ}
    (hbound : bound ≤ endless)
    (hedge : Edge (fun m => word (unitsOf m * y.units) one) bound edge) :
    IsBelow bound (x.mul y) ↔ IsBelow edge x := by
  obtain ⟨hynan, hyfinite, hysign, hyunits⟩ := hy
  cases hnan : x.isNaN with
  | true =>
    have hproduct : x.mul y = nan := by simp [mul, hnan]
    rw [hproduct]
    exact iff_of_false (fun h => absurd h.negative (by decide)) (not_isBelow_of_isNaN hnan)
  | false =>
  cases hinfinite : x.isInfinite with
  | true =>
    have hxfinite := isFinite_of_isInfinite hinfinite
    have hproduct : x.mul y = infinity x.isNegative := by
      simp [mul, hnan, hynan, hinfinite, hxfinite, hysign, Nat.pos_iff_ne_zero.1 hyunits]
    rw [hproduct, isBelow_iff_of_isInfinite hbound (isInfinite_infinity _), isNegative_infinity,
      isBelow_iff_of_isInfinite hedge.number hinfinite]
  | false =>
    have hproduct : x.mul y = nearest x.isNegative (x.units * y.units) one := by
      simp [mul, hnan, hynan, hinfinite, hyfinite, hysign]
    rw [hproduct, isBelow_nearest_iff hbound, isBelow_iff_of_not_isNaN hnan, units_eq,
      hedge.le_iff]

end Screening.Binary64
