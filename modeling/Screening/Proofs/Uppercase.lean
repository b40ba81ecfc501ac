/-
The uppercase of an uppercase.

What an uppercase is made of is uppercase itself, so folding a text twice is folding it once. White
space is its own uppercase and part of no other, so a text is blank exactly if its uppercase is, and
folding and trimming can change places.

All of this is read off the tables. The characters that a run of the table is moved to are a run
again, and what has to be shown is that this run meets no other one. As runs increase, it is enough to
look at the first run that ends at its start or behind; where the two overlap, both hold every second
character only, one the even ones and the other the odd ones.

* `Shift.skips`: a run that meets none of a table, and `findShift_eq_none` for it.
* `upper_of_mem_upper`, `isSpace_of_mem_upper`: the characters of an uppercase.
* `fold_append`, `fold_fold`, `isBlank_fold`, `trim_fold`: the uppercase of a text.
-/
import Screening.Proofs.Letters

namespace Screening.Text

/-! ### Runs that do not meet -/

namespace Shift

/-- The run of the characters that a run is moved to. -/
def image (s : Shift) : Shift :=
  ⟨(s.first + s.distance).toNat, (s.last + s.distance).toNat, s.step, -s.distance⟩

/-- Whether a run holds every second character at most. -/
def isSparse (s : Shift) : Bool :=
  s.step == 2 || s.first == s.last

/-- Whether a run meets none of a table of increasing runs. -/
def skips (r : Shift) : List Shift → Bool
  | [] => true
  | s :: table =>
    if r.first ≤ s.last then
      r.last < s.first && s.first ≤ s.last ||
        r.last ≤ s.last && r.isSparse && s.step == 2 && (r.first + s.first) % 2 == 1
    else skips r table

/-- The characters of a sparse run are all even or all odd. -/
lemma Covers.mod_two {r : Shift} {n : ℕ} (h : r.Covers n) (hr : r.isSparse = true) :
    n % 2 = r.first % 2 := by
  obtain ⟨hfirst, hlast, hstep⟩ := h
  rw [isSparse, Bool.or_eq_true, beq_iff_eq, beq_iff_eq] at hr
  rcases hr with hr | hr
  · rw [hr] at hstep
    omega
  · have hn : n = r.first := by omega
    rw [hn]

end Shift

/-- A character of a run that meets none of a table is not found in the table. -/
lemma findShift_eq_none {r : Shift} {n : ℕ} {table : List Shift} (hr : r.skips table = true)
    (h : r.Covers n) : findShift n table = none := by
  induction table with
  | nil => rfl
  | cons s table ih =>
    have hfirst := h.first
    have hlast := h.last
    rw [Shift.skips] at hr
    rw [findShift]
    split at hr
    next hstart =>
      simp only [Bool.or_eq_true, Bool.and_eq_true, decide_eq_true_eq, beq_iff_eq] at hr
      rcases hr with ⟨hbefore, horder⟩ | ⟨⟨⟨hwithin, hsparse⟩, htwo⟩, hodd⟩
      · rw [if_pos (by omega), if_neg (by omega)]
      · -- both runs hold every second character, and they start at different parities
        have hparity := h.mod_two hsparse
        rw [if_pos (by omega), htwo, if_neg (by omega)]
    next hstart =>
      rw [if_neg (by omega), ih hr]

/-! ### Characters that stay as they are -/

/-- The characters with an expansion, each as a run of its own. -/
def expansionRuns : List Shift :=
  expansions.map fun e => ⟨e.1, e.1, 1, 0⟩

/-- A character that is in none of the runs of the expansions has no expansion. -/
lemma findExpansion_eq_none {n : ℕ} {table : List (ℕ × List ℕ)}
    (h : findShift n (table.map fun e => ⟨e.1, e.1, 1, 0⟩) = none) :
    findExpansion n table = none := by
  induction table with
  | nil => rfl
  | cons e table ih =>
    obtain ⟨m, ns⟩ := e
    rw [List.map_cons, findShift] at h
    rw [findExpansion]
    dsimp only at h
    split_ifs at h with hle hcovers
    · rw [if_pos hle, if_neg (by omega)]
    · rw [if_neg hle, ih h]

/-- A run that is not moved by the table, nor expanded. -/
structure Shift.IsFixed (r : Shift) : Prop where
  shifts : r.skips shifts = true
  expansions : r.skips expansionRuns = true

/-- A character of a run that is not moved is its own uppercase. -/
lemma Shift.IsFixed.upper_eq {r : Shift} {c : Char} (hr : r.IsFixed) (h : r.Covers c.toNat) :
    upper c = [c] := by
  rw [upper, findExpansion_eq_none (findShift_eq_none hr.expansions h),
    findShift_eq_none hr.shifts h]

/-- White space as runs. -/
def spaceRuns : List Shift :=
  [⟨9, 13, 1, 0⟩, ⟨0x20, 0x20, 1, 0⟩, ⟨0x85, 0x85, 1, 0⟩, ⟨0xA0, 0xA0, 1, 0⟩,
    ⟨0x1680, 0x1680, 1, 0⟩, ⟨0x2000, 0x200A, 1, 0⟩, ⟨0x2028, 0x2029, 1, 0⟩,
    ⟨0x202F, 0x202F, 1, 0⟩, ⟨0x205F, 0x205F, 1, 0⟩, ⟨0x3000, 0x3000, 1, 0⟩]

/-- White space is what the runs of white space hold. -/
lemma isSpace_iff {c : Char} :
    isSpace c = true ↔ ∃ r ∈ spaceRuns, r.first ≤ c.toNat ∧ c.toNat ≤ r.last := by
  simp only [isSpace, spaceRuns, List.mem_cons, List.not_mem_nil, or_false, exists_eq_or_imp,
    exists_eq_left, Bool.or_eq_true, Bool.and_eq_true, decide_eq_true_eq, beq_iff_eq]
  omega

/-- White space is its own uppercase. -/
lemma upper_of_isSpace {c : Char} (h : isSpace c = true) : upper c = [c] := by
  have hfixed : ∀ r ∈ spaceRuns, r.step = 1 ∧ r.skips shifts = true ∧
      r.skips expansionRuns = true := by
    decide +kernel
  obtain ⟨r, hr, hfirst, hlast⟩ := isSpace_iff.1 h
  obtain ⟨hstep, hshifts, hexpansions⟩ := hfixed r hr
  refine Shift.IsFixed.upper_eq ⟨hshifts, hexpansions⟩ ⟨hfirst, hlast, ?_⟩
  rw [hstep, Nat.mod_one]

/-! ### The characters of an uppercase -/

/-- The characters that a run of the table is moved to are characters. -/
lemma isValidChar_of_image : ∀ s ∈ shifts, 0 ≤ s.first + s.distance ∧
    (s.image.last < 0xD800 ∨ 0xDFFF < s.image.first ∧ s.image.last < 0x110000) := by
  decide +kernel

/-- A run that the table moves characters to is not moved. -/
lemma isFixed_image {s : Shift} (hs : s ∈ shifts) : s.image.IsFixed := by
  have h : ∀ s ∈ shifts, s.image.skips shifts = true ∧ s.image.skips expansionRuns = true := by
    decide +kernel
  exact ⟨(h s hs).1, (h s hs).2⟩

/-- What a character is moved to lies in the run that its own run is moved to. -/
lemma Shift.Covers.image {s : Shift} {n : ℕ} (h : s.Covers n) (hs : 0 ≤ s.first + s.distance) :
    s.image.Covers (n + s.distance).toNat := by
  obtain ⟨hfirst, hlast, hstep⟩ := h
  have hdistance : (n + s.distance).toNat - (s.first + s.distance).toNat = n - s.first := by
    omega
  refine ⟨?_, ?_, ?_⟩
  · show (s.first + s.distance).toNat ≤ (n + s.distance).toNat
    omega
  · show (n + s.distance).toNat ≤ (s.last + s.distance).toNat
    omega
  · show ((n + s.distance).toNat - (s.first + s.distance).toNat) % s.step = 0
    rw [hdistance, hstep]

/-- A moved character has the code point that it is moved to. -/
lemma toNat_moved {s : Shift} {n : ℕ} (hs : s ∈ shifts) (h : s.Covers n) :
    s.image.Covers (Char.ofNat (n + s.distance).toNat).toNat := by
  obtain ⟨hstart, hvalid⟩ := isValidChar_of_image s hs
  have hcovers := h.image hstart
  have hchar : (n + s.distance).toNat.isValidChar := by
    have hfirst := hcovers.first
    have hlast := hcovers.last
    rcases hvalid with hvalid | ⟨hlow, hhigh⟩
    · exact .inl (by omega)
    · exact .inr ⟨by omega, by omega⟩
  rw [Char.ofNat, dif_pos hchar]
  exact hcovers

/-- The characters of an expansion are their own uppercase, and no white space. -/
lemma upper_of_mem_expansions : ∀ e ∈ expansions, ∀ n ∈ e.2,
    upper (Char.ofNat n) = [Char.ofNat n] ∧ isSpace (Char.ofNat n) = false := by
  decide +kernel

/-- A character of an uppercase is its own uppercase. -/
lemma upper_of_mem_upper {c d : Char} (h : d ∈ upper c) : upper d = [d] := by
  rcases upper_cases c with ⟨ns, hns, hc⟩ | ⟨s, hs, hcovers, hc⟩ | hc
  · rw [hc, List.mem_map] at h
    obtain ⟨n, hn, rfl⟩ := h
    exact (upper_of_mem_expansions _ hns n hn).1
  · rw [hc, List.mem_singleton] at h
    subst h
    exact (isFixed_image hs).upper_eq (toNat_moved hs hcovers)
  · rw [hc, List.mem_singleton] at h
    rwa [h]

/-- No run of the table is moved to white space. -/
lemma image_ne_space : ∀ s ∈ shifts, ∀ r ∈ spaceRuns,
    s.image.last < r.first ∨ r.last < s.image.first := by
  decide +kernel

/-- A character of an uppercase is white space exactly if it is the uppercase of white space. -/
lemma isSpace_of_mem_upper {c d : Char} (h : d ∈ upper c) : isSpace d = isSpace c := by
  cases hspace : isSpace c with
  | true =>
    rw [upper_of_isSpace hspace, List.mem_singleton] at h
    rwa [h]
  | false =>
    rcases upper_cases c with ⟨ns, hns, hc⟩ | ⟨s, hs, hcovers, hc⟩ | hc
    · rw [hc, List.mem_map] at h
      obtain ⟨n, hn, rfl⟩ := h
      exact (upper_of_mem_expansions _ hns n hn).2
    · rw [hc, List.mem_singleton] at h
      subst h
      have himage := toNat_moved hs hcovers
      rw [Bool.eq_false_iff, ne_eq, isSpace_iff]
      rintro ⟨r, hr, hfirst, hlast⟩
      have hlow := himage.first
      have hhigh := himage.last
      rcases image_ne_space s hs r hr with hbefore | hafter <;> omega
    · rw [hc, List.mem_singleton] at h
      rwa [h]

/-- Every character has an uppercase. -/
lemma upper_ne_nil (c : Char) : upper c ≠ [] := by
  rcases upper_eq_singleton_or c with ⟨d, hd⟩ | ⟨e, he, hc⟩
  · simp [hd]
  · have hlength := two_le_length_of_mem_expansions e he
    rw [hc, ne_eq, List.map_eq_nil_iff]
    rintro hnil
    rw [hnil] at hlength
    exact absurd hlength (by decide)

/-! ### The uppercase of a text -/

/-- Folding goes through an append. -/
lemma fold_append (s t : String) : fold (s ++ t) = fold s ++ fold t := by
  rw [← String.toList_inj, toList_fold_append, String.toList_append]

/-- Folding twice is folding once. -/
lemma fold_fold (s : String) : fold (fold s) = fold s := by
  rw [← String.toList_inj, toList_fold, toList_fold, List.flatMap_assoc]
  refine List.flatMap_congr fun c _ => ?_
  calc (upper c).flatMap upper
      = (upper c).flatMap fun d => [d] := List.flatMap_congr fun d hd => upper_of_mem_upper hd
    _ = upper c := List.flatMap_singleton' _

/-- A text is blank exactly if its uppercase is. -/
lemma isBlank_fold (s : String) : isBlank (fold s) = isBlank s := by
  have hupper (c : Char) : (upper c).all isSpace = isSpace c := by
    obtain ⟨d, hd⟩ := List.exists_mem_of_ne_nil _ (upper_ne_nil c)
    rw [Bool.eq_iff_iff, List.all_eq_true]
    constructor
    · intro h
      rw [← isSpace_of_mem_upper hd, h d hd]
    · intro h d' hd'
      rw [isSpace_of_mem_upper hd', h]
  rw [isBlank, toList_fold, List.all_flatMap, isBlank]
  simp only [hupper]

/-- White space at the start of a text is lost in its uppercase just as well. -/
lemma trimStart_flatMap_upper (cs : List Char) :
    trimStart (cs.flatMap upper) = (trimStart cs).flatMap upper := by
  induction cs with
  | nil => rfl
  | cons c cs ih =>
    rw [List.flatMap_cons]
    cases hspace : isSpace c with
    | true =>
      rw [upper_of_isSpace hspace]
      simpa [trimStart, hspace] using ih
    | false =>
      obtain ⟨d, tail, hd⟩ := List.exists_cons_of_ne_nil (upper_ne_nil c)
      have hfirst : isSpace d = false := by
        rw [isSpace_of_mem_upper (c := c) (by rw [hd]; exact List.mem_cons_self), hspace]
      simp [trimStart, hspace, hd, hfirst]

/-- Nothing is trimmed at the end before the last character that is no white space. -/
lemma trimEnd_append {front : List Char} (h : ∀ c ∈ front, isSpace c = false) (cs : List Char) :
    trimEnd (front ++ cs) = front ++ trimEnd cs := by
  induction front with
  | nil => rfl
  | cons c front ih =>
    rw [List.cons_append, trimEnd_cons, h c List.mem_cons_self,
      ih fun d hd => h d (List.mem_cons_of_mem c hd)]
    simp

/-- White space at the end of a text is lost in its uppercase just as well. -/
lemma trimEnd_flatMap_upper (cs : List Char) :
    trimEnd (cs.flatMap upper) = (trimEnd cs).flatMap upper := by
  induction cs with
  | nil => rfl
  | cons c cs ih =>
    rw [List.flatMap_cons, trimEnd_cons]
    cases hspace : isSpace c with
    | true =>
      rw [upper_of_isSpace hspace, List.singleton_append, trimEnd_cons, hspace, ih]
      by_cases hnil : trimEnd cs = []
      · simp [hnil]
      · have hupper : (trimEnd cs).flatMap upper ≠ [] := by
          obtain ⟨d, tail, hd⟩ := List.exists_cons_of_ne_nil hnil
          simp [hd, upper_ne_nil]
        simp [hnil, hupper, upper_of_isSpace hspace]
    | false =>
      rw [trimEnd_append (fun d hd => (isSpace_of_mem_upper hd).trans hspace), ih]
      simp

/-- Folding and trimming can change places. -/
lemma trim_fold (s : String) : trim (fold s) = fold (trim s) := by
  rw [← String.toList_inj, toList_trim, toList_fold, toList_fold, toList_trim,
    trimStart_flatMap_upper, trimEnd_flatMap_upper]

end Screening.Text
