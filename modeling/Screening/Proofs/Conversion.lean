/-
The values that become cells.

A value has no cell only if it is a serial number whose span reaches the smallest one. The count of
days and its product with the milliseconds of a day are rounded, which keeps order; so the serial
numbers without a cell are those from one double down, in each date system, and the negative
infinity with them. All others have a cell, be they a NaN, the positive infinity or outside the
calendar.

* `Serial.IsFarBelow`, `Value.IsFarBelow`: the serial numbers, and the values, without a cell.
* `Serial.span_eq_minSpan_iff`, `Serial.isBelow_continuousDays_iff`: the test, one operation after
  the other.
* `Value.toCell_eq_error_iff`: exactly these values have no cell.
-/
import Screening.Proofs.Rounding
import Screening.Sheet.Value

namespace Screening

/-! ### The operations on days -/

namespace Binary64

instance (bound : ℕ) (x : Binary64) : Decidable (IsBelow bound x) :=
  decidable_of_iff (x.isNegative = true ∧ bound ≤ x.magnitude ∧ x.magnitude ≤ endless)
    ⟨fun ⟨h₁, h₂, h₃⟩ => ⟨h₁, h₂, h₃⟩, fun ⟨h₁, h₂, h₃⟩ => ⟨h₁, h₂, h₃⟩⟩

instance (x : Binary64) : Decidable x.IsPositive :=
  decidable_of_iff (x.isNaN = false ∧ x.isInfinite = false ∧ x.isNegative = false ∧ 0 < x.units)
    ⟨fun ⟨h₁, h₂, h₃, h₄⟩ => ⟨h₁, h₂, h₃, h₄⟩, fun ⟨h₁, h₂, h₃, h₄⟩ => ⟨h₁, h₂, h₃, h₄⟩⟩

/-- The bits of `2 ^ 63`. -/
def wordOfTwo63 : ℕ :=
  1086 * 2 ^ 52

lemma edge_roundAway :
    Edge (fun m => (2 * unitsOf m + one) / (2 * one)) (2 ^ 63) wordOfTwo63 where
  mono _ _ h :=
    Nat.div_le_div_right (Nat.add_le_add_right (Nat.mul_le_mul_left _ (unitsOf_mono h)) _)
  below := by decide +kernel
  above := by decide +kernel
  number := by decide +kernel

/-- A finite double is rounded to `-2 ^ 63` or less if it is at or below this number. -/
lemma roundAway_le_iff {x : Binary64} (hnan : x.isNaN = false) :
    x.roundAway ≤ -2 ^ 63 ↔ x.IsBelow wordOfTwo63 := by
  rw [isBelow_iff_of_not_isNaN hnan, ← edge_roundAway.le_iff, ← units_eq, roundAway]
  generalize (2 * x.units + one) / (2 * one) = n
  cases x.isNegative with
  | false =>
    rw [if_neg Bool.false_ne_true]
    exact iff_of_false (by omega) nofun
  | true =>
    rw [if_pos rfl, eq_self, true_and]
    omega

/-- A number from a positive one on is not negative. -/
lemma isNegative_of_atLeast {x : Binary64} {n : ℕ} (hn : 0 < n) (h : x.atLeast n = true) :
    x.isNegative = false := by
  rw [atLeast, Bool.and_eq_true] at h
  obtain ⟨-, h⟩ := h
  split at h
  · rwa [Bool.not_eq_true'] at h
  · rw [Bool.eq_false_iff]
    intro hnegative
    have hunits : x.signedUnits = -x.units := if_pos hnegative
    have hone : 0 < n * one := Nat.mul_pos hn (by decide +kernel)
    have hle := of_decide_eq_true h
    omega

end Binary64

namespace Serial

open Binary64

/-! ### The span of a serial number -/

variable (s : Serial)

/-- The span is the smallest one if the milliseconds are at `-2 ^ 63` or below. -/
lemma span_eq_minSpan_iff :
    s.span = minSpan ↔ (s.continuousDays.mul (ofNat 86400000)).IsBelow wordOfTwo63 := by
  rw [span]
  generalize s.continuousDays.mul (ofNat 86400000) = x
  cases hnan : x.isNaN with
  | true =>
    rw [if_pos rfl]
    exact iff_of_false (by decide) (not_isBelow_of_isNaN hnan)
  | false =>
  rw [if_neg Bool.false_ne_true]
  cases hinfinite : x.isInfinite with
  | true =>
    rw [if_pos rfl, isBelow_iff_of_isInfinite (by decide) hinfinite]
    cases x.isNegative <;> decide
  | false =>
    have hmin : minSpan = -2 ^ 63 := rfl
    have hmax : maxSpan = 2 ^ 63 - 1 := rfl
    rw [if_neg Bool.false_ne_true, ← roundAway_le_iff hnan, hmin, hmax]
    omega

/-- The bits of the count of days whose milliseconds are at `2 ^ 63`. -/
def wordOfDays : ℕ :=
  0x4238DAEA1D7F4CF7

/-- The bits, without the sign, of the first serial number below zero whose span is the smallest:
-106751991168.30064 days in the system from 1900, -106751992630.30064 in the one from 1904. -/
def lowWord (from1904 : Bool) : ℕ :=
  if from1904 then 0x4238DAEA23364CF7 else 0x4238DAEA1D804CF7

lemma edge_milliseconds :
    Edge (fun m => word (unitsOf m * (ofNat 86400000).units) one) wordOfTwo63 wordOfDays where
  mono _ _ h := word_mono one (Nat.mul_le_mul_right _ (unitsOf_mono h))
  below := by decide +kernel
  above := by decide +kernel
  number := by decide +kernel

lemma edge_add {y : Binary64} {bound edge : ℕ}
    (hbelow : word (unitsOf (edge - 1) - y.units) 1 < bound)
    (habove : bound ≤ word (unitsOf edge - y.units) 1) (hnumber : edge ≤ endless) :
    Edge (fun m => word (unitsOf m - y.units) 1) bound edge where
  mono _ _ h := word_mono 1 (Nat.sub_le_sub_right (unitsOf_mono h) _)
  below := hbelow
  above := habove
  number := hnumber

/-- The day that is added below 60. -/
lemma isBelow_add_one_iff {x : Binary64} :
    (x.add (ofNat 1)).IsBelow wordOfDays ↔ x.IsBelow (lowWord false) :=
  isBelow_add_iff (by decide +kernel) (by decide) (by decide)
    (edge_add (by decide +kernel) (by decide +kernel) (by decide))

/-- The days between the two date systems. -/
lemma isBelow_add_1462_iff {x : Binary64} :
    (x.add (ofNat 1462)).IsBelow (lowWord false) ↔ x.IsBelow (lowWord true) :=
  isBelow_add_iff (by decide +kernel) (by decide) (by decide)
    (edge_add (by decide +kernel) (by decide +kernel) (by decide))

/-- A serial number so far below zero that its span is the smallest one. -/
def IsFarBelow (s : Serial) : Prop :=
  s.days.IsBelow (lowWord s.from1904)

instance : Decidable s.IsFarBelow :=
  inferInstanceAs (Decidable (IsBelow _ _))

lemma isBelow_continuousDays_iff : s.continuousDays.IsBelow wordOfDays ↔ s.IsFarBelow := by
  have hcount : ∀ x : Binary64,
      (if x.atLeast 60 then x else x.add (ofNat 1)).IsBelow wordOfDays ↔
        x.IsBelow (lowWord false) := by
    intro x
    split
    next hleast =>
      have hpositive := isNegative_of_atLeast (by decide) hleast
      exact iff_of_false (fun h => Bool.noConfusion (hpositive.symm.trans h.negative))
        fun h => Bool.noConfusion (hpositive.symm.trans h.negative)
    next => exact isBelow_add_one_iff
  rw [continuousDays, IsFarBelow]
  cases s.from1904 with
  | false => exact hcount _
  | true => exact (hcount _).trans isBelow_add_1462_iff

/-- A serial number has one fault only. -/
instance : Subsingleton Overflow :=
  ⟨fun .belowRange .belowRange => rfl⟩

lemma toDateTime?_eq_error_iff : s.toDateTime? = .error .belowRange ↔ s.IsFarBelow := by
  rw [← isBelow_continuousDays_iff, ← isBelow_mul_iff (by decide +kernel) (by decide)
    edge_milliseconds, ← span_eq_minSpan_iff, toDateTime?]
  split
  next h => exact iff_of_true rfl h
  next h => exact iff_of_false nofun h

end Serial

namespace Value

/-- A serial number, or a span, too far below zero. -/
def IsFarBelow : Value → Prop
  | dateTime s | duration s => s.IsFarBelow
  | _ => False

instance : DecidablePred IsFarBelow
  | dateTime s | duration s => inferInstanceAs (Decidable s.IsFarBelow)
  | empty | text _ | float _ | int _ | bool _ | isoDateTime _ | isoDuration _ | error _ =>
    inferInstanceAs (Decidable False)

/-- A value has no cell exactly if it is a serial number too far below zero. -/
lemma toCell_eq_error_iff {value : Value} :
    value.toCell = .error .belowRange ↔ value.IsFarBelow := by
  cases value with
  | dateTime s | duration s =>
    rw [IsFarBelow, ← s.toDateTime?_eq_error_iff, toCell, serialCell]
    cases s.toDateTime? <;> simp [Except.map]
  | isoDateTime s =>
    rw [toCell]
    refine iff_of_false ?_ id
    split <;> exact nofun
  | _ => exact iff_of_false nofun id

/-- The cell of a value; a serial number too far below zero counts as empty. -/
def cell (value : Value) : Cell :=
  value.toCell.toOption.getD .empty

/-- All other values have a cell. -/
lemma toCell_eq_ok {value : Value} (h : ¬value.IsFarBelow) : value.toCell = .ok value.cell := by
  rw [← toCell_eq_error_iff] at h
  rw [cell]
  cases hcell : value.toCell with
  | error e =>
    cases e
    exact absurd hcell h
  | ok cell => rfl

lemma exists_toCell_iff {value : Value} :
    (∃ cell, value.toCell = .ok cell) ↔ ¬value.IsFarBelow := by
  refine ⟨?_, fun h => ⟨_, toCell_eq_ok h⟩⟩
  rintro ⟨cell, hcell⟩ hfar
  rw [toCell_eq_error_iff.2 hfar] at hcell
  cases hcell

end Value

end Screening
