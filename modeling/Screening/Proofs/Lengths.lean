/-
The lengths of the texts of a report.

A text of a report is a label, the name of a column, the trimmed text of a cell, or a value that was
found between the bars of one cell. The joined search texts may be twice as long as a cell, but no
value reaches across the bar between them; and the texts of numbers and dates are short. So if the
texts of a sheet fit into cells, the texts of its report do, and its workbook can be written.

* `Binary64.length_cellText_le`, `DateTime.length_text_le`: the texts of numbers and dates.
* `Cell.Fits`, `Cell.length_asText_le`: what a cell may hold, and that its text fits into a cell.
* `length_le_of_mem_extract`: the values of two search texts.
* `Workbook.fits_of_firstRows`: the rows that are read of values that fit.
* `Report.written_of_fits`: the report of cells that fit is written.
-/
import Screening.Proofs.Chronology
import Screening.Proofs.Contents
import Screening.Proofs.FirstSheet

namespace Screening

/-! ### Numbers -/

/-- The text of a whole number has at most a sign more than digits. -/
lemma length_toString_le {n : ℤ} {k : ℕ} (hk : 0 < k) (h : n.natAbs < 10 ^ k) :
    (toString n).length ≤ k + 1 := by
  cases n with
  | ofNat n =>
    have hrepr : (Nat.repr n).length ≤ k := Nat.repr_length n k hk h
    exact hrepr.trans (Nat.le_succ k)
  | negSucc n =>
    have hrepr : (Nat.repr (n + 1)).length ≤ k := Nat.repr_length (n + 1) k hk h
    show ("-" ++ Nat.repr (n + 1)).length ≤ k + 1
    rw [String.length_append]
    exact (Nat.add_comm _ _).trans_le (Nat.succ_le_succ hrepr)

/-- Positional notation adds at most a zero for each power of ten, a zero and a point. -/
lemma Decimal.length_positional_le (d : Decimal) :
    d.positional.length ≤ d.digits.length + d.exponent.natAbs + 2 := by
  rw [positional]
  split
  · rw [List.length_append, List.length_replicate]
    omega
  · split
    · rw [List.length_append, List.length_cons, List.length_take, List.length_drop]
      omega
    next hpoint =>
      rw [pointPlace] at hpoint ⊢
      simp only [List.length_append, List.length_cons, List.length_replicate]
      omega

namespace Binary64

lemma Tie.choose_le (tie : Tie) (floor rest scale : ℕ) :
    tie.choose floor rest scale ≤ floor + 1 := by
  rw [Tie.choose.eq_def]
  split
  · exact Nat.le_succ floor
  · split
    · exact le_rfl
    · cases tie with
      | up => exact le_rfl
      | even => exact Nat.add_le_add_left (Nat.le_of_lt_succ (Nat.mod_lt _ (by decide))) _

namespace Interval

variable {i : Interval} {tie : Tie}

/-- A point of a grid is next to the middle of the interval. -/
lemma le_of_pointOn? {exponent : ℤ} {n : ℕ} (h : i.pointOn? tie exponent = some n) :
    n ≤ i.middle * 10 ^ (-exponent).toNat + 1 := by
  rw [pointOn?] at h
  generalize 4 * one * Nat.pow 10 exponent.toNat = scale at h
  have hfloor : i.middle * Nat.pow 10 (-exponent).toNat / scale
      ≤ i.middle * 10 ^ (-exponent).toNat := Nat.div_le_self _ _
  split at h
  · cases h
    exact (Tie.choose_le _ _ _ _).trans (Nat.succ_le_succ hfloor)
  · cases h
    exact hfloor.trans (Nat.le_succ _)
  · cases h
    exact Nat.succ_le_succ hfloor
  · cases h

/-- The search ends within its steps, next to the middle of the interval. -/
lemma firstPoint_bounds (i : Interval) (tie : Tie) (count : ℕ) (exponent : ℤ) :
    (i.firstPoint tie count exponent).exponent ≤ exponent ∧
      exponent - count ≤ (i.firstPoint tie count exponent).exponent ∧
      (i.firstPoint tie count exponent).coefficient
        ≤ i.middle * 10 ^ (-(i.firstPoint tie count exponent).exponent).toNat + 1 := by
  induction count generalizing exponent with
  | zero =>
    rw [firstPoint]
    refine ⟨le_rfl, by simp, ?_⟩
    cases hpoint : i.pointOn? tie exponent with
    | none => exact Nat.zero_le _
    | some n => exact le_of_pointOn? hpoint
  | succ count ih =>
    rw [firstPoint]
    cases hpoint : i.pointOn? tie exponent with
    | none =>
      obtain ⟨hle, hge, hcoefficient⟩ := ih (exponent - 1)
      dsimp only
      exact ⟨by omega, by omega, hcoefficient⟩
    | some n => exact ⟨le_rfl, Int.sub_le_self _ (Int.natCast_nonneg _), le_of_pointOn? hpoint⟩

end Interval

variable (x : Binary64)

lemma spacing_le : x.spacing ≤ 2046 := by
  have hfield : x.exponentField < 2 ^ 11 := Nat.mod_lt _ (by decide)
  rw [spacing]
  omega

/-- A magnitude has 53 binary places beyond its spacing. -/
lemma units_lt : x.units < 2 ^ (53 + x.spacing) := by
  have hsignificand : x.significand < 2 ^ 53 := by
    have hfield : x.fractionField < 2 ^ 52 := Nat.mod_lt _ (by decide)
    rw [significand]
    split
    · omega
    · show 2 ^ 52 + x.fractionField < 2 ^ 53
      omega
  calc x.units = x.significand * 2 ^ x.spacing := rfl
    _ < 2 ^ 53 * 2 ^ x.spacing :=
        Nat.mul_lt_mul_of_pos_right hsignificand (Nat.two_pow_pos x.spacing)
    _ = 2 ^ (53 + x.spacing) := (Nat.pow_add 2 53 x.spacing).symm

/-- The search for the shortest digits starts between the extreme powers of ten. -/
lemma startExponent_bounds : -323 ≤ x.startExponent ∧ x.startExponent ≤ 309 := by
  have hspacing := x.spacing_le
  have hlog : x.units.log2 ≤ 2098 := by
    by_cases hzero : x.units = 0
    · rw [hzero]
      decide
    · have hlt := (Nat.log2_lt hzero).2 x.units_lt
      omega
  rw [startExponent]
  omega

/-- The shortest digits of a magnitude, loosely: their number, and the power of ten. -/
lemma shortest_bounds (tie : Tie) :
    (x.shortest tie).digits.length ≤ 2444 ∧ (x.shortest tie).exponent.natAbs ≤ 343 := by
  rw [shortest]
  split
  · decide
  · obtain ⟨hle, hge, hcoefficient⟩ := x.interval.firstPoint_bounds tie 20 x.startExponent
    generalize x.interval.firstPoint tie 20 x.startExponent = d at hle hge hcoefficient ⊢
    obtain ⟨hlow, hhigh⟩ := x.startExponent_bounds
    have hunits := x.units_lt
    have hspacing := x.spacing_le
    have hpos : 0 < 10 ^ (-d.exponent).toNat := Nat.pow_pos (by decide)
    have hlt : d.coefficient < 10 ^ (2 + (53 + x.spacing) + (-d.exponent).toNat) := by
      calc d.coefficient
          ≤ 4 * x.units * 10 ^ (-d.exponent).toNat + 1 := hcoefficient
        _ ≤ (4 * x.units + 1) * 10 ^ (-d.exponent).toNat := by
            rw [Nat.add_mul, Nat.one_mul]
            exact Nat.add_le_add_left hpos _
        _ < 2 ^ (2 + (53 + x.spacing)) * 10 ^ (-d.exponent).toNat := by
            refine Nat.mul_lt_mul_of_pos_right ?_ hpos
            rw [Nat.pow_add]
            omega
        _ ≤ 10 ^ (2 + (53 + x.spacing)) * 10 ^ (-d.exponent).toNat :=
            Nat.mul_le_mul_right _ (Nat.pow_le_pow_left (by decide) _)
        _ = 10 ^ (2 + (53 + x.spacing) + (-d.exponent).toNat) := (Nat.pow_add _ _ _).symm
    have hdigits : d.digits.length ≤ 2 + (53 + x.spacing) + (-d.exponent).toNat :=
      Nat.toDigits_length 10 _ _ (by omega) hlt
    omega

/-- The text of a number is shorter than a cell may hold. -/
lemma length_text_le : x.text.length ≤ 2790 := by
  have hsign : (if x.isNegative then ['-'] else []).length ≤ 1 := by
    split <;> decide
  rw [text]
  split
  · decide
  · split
    · rw [String.length_ofList, List.length_append]
      exact (Nat.add_le_add_right hsign _).trans (by decide)
    · obtain ⟨hdigits, hexponent⟩ := x.shortest_bounds .up
      have hpositional := (x.shortest .up).length_positional_le
      rw [String.length_ofList, List.length_append]
      omega

/-- So is the text of the cell of a number. -/
lemma length_cellText_le : x.cellText.length ≤ 2790 := by
  rw [cellText]
  split
  · have hspacing := x.spacing_le
    have htruncate : x.truncate.natAbs < 10 ^ (53 + x.spacing) := by
      calc x.truncate.natAbs
          ≤ x.signedUnits.natAbs := Int.natAbs_tdiv_le_natAbs _ _
        _ = x.units := by
            rw [signedUnits]
            split
            · exact Int.natAbs_neg _
            · rfl
        _ < 2 ^ (53 + x.spacing) := x.units_lt
        _ ≤ 10 ^ (53 + x.spacing) := Nat.pow_le_pow_left (by decide) _
    have hlength := length_toString_le (by omega) htruncate
    omega
  · exact x.length_text_le

end Binary64

/-! ### Dates -/

/-- A number is padded to its width, or has more digits. -/
lemma length_padded_le (width n k : ℕ) (hk : 0 < k) (hwidth : width ≤ k) (h : n < 10 ^ k) :
    (padded width n).length ≤ k := by
  have hdigits := Nat.toDigits_length 10 n k hk h
  rw [padded, List.leftpad, List.length_append, List.length_replicate]
  omega

lemma Date.length_text_le (d : Date) : d.text.length ≤ 13 := by
  obtain ⟨hlow, hhigh, -⟩ := d.isDate
  obtain ⟨-, hmonth, hday⟩ := d.bounds
  have hsign : (if d.year < 0 then ['-'] else if 9999 < d.year then ['+'] else []).length ≤ 1 := by
    split
    · exact le_rfl
    · split <;> simp
  have hyear := length_padded_le 4 d.year.natAbs 6 (by simp) (by simp) (by omega)
  have hmonth : IsNumeral 2 (padded 2 d.month) := isNumeral_padded Nat.two_pos (by omega)
  have hday : IsNumeral 2 (padded 2 d.day) := isNumeral_padded Nat.two_pos (by omega)
  rw [text, yearText]
  simp only [List.length_append, List.length_cons, hmonth.length, hday.length]
  omega

lemma Time.length_text (t : Time) : t.text.length = 8 := by
  obtain ⟨hhour, hminute, hsecond, -⟩ := t.isTime
  have hhour : IsNumeral 2 (padded 2 t.hour) := isNumeral_padded Nat.two_pos (by omega)
  have hminute : IsNumeral 2 (padded 2 t.minute) := isNumeral_padded Nat.two_pos (by omega)
  have hsecond : IsNumeral 2 (padded 2 t.second) := isNumeral_padded Nat.two_pos (by omega)
  rw [text]
  simp only [List.length_append, List.length_cons, hhour.length, hminute.length, hsecond.length]

/-- The text of a date-time has at most 22 characters, with a signed year and the time of day. -/
lemma DateTime.length_text_le (t : DateTime) : t.text.length ≤ 22 := by
  have hdate := t.date.length_text_le
  have htime := t.time.length_text
  rw [text]
  split
  · rw [String.length_ofList]
    omega
  · rw [String.length_ofList, List.length_append, List.length_cons]
    omega

/-! ### Cells -/

namespace Cell

/-- What a cell of a sheet may hold: a text that is not too long, and a whole number of 64 bits. -/
def Fits : Cell → Prop
  | text s => s.length ≤ Sheet.textLimit
  | int n => -2 ^ 63 ≤ n ∧ n < 2 ^ 63
  | empty | float _ | bool _ | dateTime _ | error _ => True

instance : DecidablePred Fits
  | text s => inferInstanceAs (Decidable (s.length ≤ _))
  | int n => inferInstanceAs (Decidable (-2 ^ 63 ≤ n ∧ n < 2 ^ 63))
  | empty | float _ | bool _ | dateTime _ | error _ => inferInstanceAs (Decidable True)

/-- The text of a cell that fits is not too long for one. -/
lemma length_asText_le {cell : Cell} (h : cell.Fits) : cell.asText.length ≤ Sheet.textLimit := by
  cases cell with
  | empty => decide
  | text s => exact h
  | float x => exact x.length_cellText_le.trans (by decide)
  | int n =>
    obtain ⟨hlow, hhigh⟩ := h
    have hdigits : n.natAbs < 10 ^ 19 := by omega
    exact (length_toString_le (by decide) hdigits).trans (by decide)
  | bool b => cases b <;> decide
  | dateTime t => exact t.length_text_le.trans (by decide)
  | error name => exact Nat.zero_le _

end Cell

/-- Trimming makes no text longer. -/
lemma Text.length_trim_le (s : String) : (trim s).length ≤ s.length := by
  have hpart := trim_infix s
  rw [← String.length_toList, ← String.length_toList]
  exact hpart.length_le

namespace Row

/-- A row whose cells fit. -/
def Fits (row : Row) : Prop :=
  ∀ cell ∈ row, cell.Fits

instance (row : Row) : Decidable row.Fits :=
  inferInstanceAs (Decidable (∀ cell ∈ row, _))

lemma length_get_le {row : Row} (h : row.Fits) (column : ℕ) :
    (row.get column).length ≤ Sheet.textLimit := by
  rw [get]
  split
  next cell hcell =>
    exact (Text.length_trim_le _).trans (Cell.length_asText_le (h cell (List.mem_of_getElem? hcell)))
  · decide

end Row

/-! ### The values that are found -/

/-- A piece of a text is no longer than the text. -/
lemma length_le_of_mem_pieces {text : String} {piece : List Char} (h : piece ∈ pieces text) :
    piece.length ≤ text.length := by
  rw [pieces] at h
  rw [← String.length_toList]
  generalize text.toList = cs at h ⊢
  induction cs generalizing piece with
  | nil =>
    rw [List.splitOn_nil, List.mem_singleton] at h
    rw [h]
  | cons c cs ih =>
    rw [List.splitOn_cons_eq_if_modifyHead] at h
    obtain ⟨first, others, hpieces⟩ := List.exists_cons_of_ne_nil (List.splitOn_ne_nil '|' cs)
    rw [hpieces] at h ih
    split at h
    · rcases List.mem_cons.1 h with rfl | h
      · exact Nat.zero_le _
      · exact (ih h).trans (Nat.le_succ _)
    · rcases List.mem_cons.1 h with rfl | h
      · exact Nat.succ_le_succ (ih List.mem_cons_self)
      · exact (ih (List.mem_cons_of_mem first h)).trans (Nat.le_succ _)

/-- A value that is found in two joined texts is no longer than one of them. -/
lemma length_le_of_mem_extract {key : FieldKey} {textA textB value : String}
    (h : value ∈ key.extract (combinedText textA textB)) :
    value.length ≤ textA.length ∨ value.length ≤ textB.length := by
  rw [key.extract_combinedText] at h
  rw [← String.length_toList]
  rcases (of_mem_pieceValues h).2.2 with ⟨piece, hpiece, hpart⟩ | ⟨piece, hpiece, hpart⟩
  · exact .inl (hpart.length_le.trans (length_le_of_mem_pieces hpiece))
  · exact .inr (hpart.length_le.trans (length_le_of_mem_pieces hpiece))

/-- The texts of the line of a row that fits are not too long. -/
lemma Line.length_le_of_mem_cells {row : Row} {criteria : Criteria} {line : Line}
    (h : ofRow? row criteria = some line) (hrow : row.Fits) {text : String}
    (htext : text ∈ line.cells) : text.length ≤ Sheet.textLimit := by
  obtain ⟨status, hcells⟩ := cells_of_ofRow? h
  rw [hcells, List.mem_append, List.mem_flatMap] at htext
  rcases htext with hcolumn | ⟨key, -, hslot⟩
  · simp only [List.mem_cons, List.not_mem_nil, or_false] at hcolumn
    rcases hcolumn with rfl | rfl | rfl | rfl | rfl | rfl
    · cases status <;> decide
    all_goals exact Row.length_get_le hrow _
  · rcases Slots.eq_empty_or_mem hslot with rfl | hvalue
    · decide
    · rcases length_le_of_mem_extract (List.mem_of_mem_take hvalue) with hA | hB
      · exact hA.trans (Row.length_get_le hrow _)
      · exact hB.trans (Row.length_get_le hrow _)

/-! ### Workbooks that are read -/

namespace Value

/-- What a sheet may store: a text that is not too long, and a whole number of 64 bits. -/
def Fits : Value → Prop
  | text s | isoDateTime s | isoDuration s => s.length ≤ Sheet.textLimit
  | int n => -2 ^ 63 ≤ n ∧ n < 2 ^ 63
  | empty | float _ | bool _ | dateTime _ | duration _ | error _ => True

instance : DecidablePred Fits
  | text s | isoDateTime s | isoDuration s => inferInstanceAs (Decidable (s.length ≤ _))
  | int n => inferInstanceAs (Decidable (-2 ^ 63 ≤ n ∧ n < 2 ^ 63))
  | empty | float _ | bool _ | dateTime _ | duration _ | error _ =>
    inferInstanceAs (Decidable True)

/-- A value that fits becomes a cell that does, also where it is shown as a text. -/
lemma fits_of_toCell {value : Value} {cell : Cell} (h : value.Fits)
    (hcell : value.toCell = .ok cell) : cell.Fits := by
  cases value with
  | dateTime s | duration s =>
    rw [toCell, serialCell] at hcell
    cases htime : s.toDateTime? with
    | error e =>
      rw [htime] at hcell
      cases hcell
    | ok time? =>
      rw [htime] at hcell
      cases time? with
      | none =>
        cases hcell
        exact s.days.length_text_le.trans (by decide)
      | some t =>
        cases hcell
        exact trivial
  | isoDateTime s =>
    rw [toCell] at hcell
    split at hcell
    · cases hcell
      exact trivial
    · cases hcell
      exact h
  | empty | text s | float x | int n | bool b | isoDuration s | error e =>
    cases hcell
    exact h

end Value

/-- The values of a sheet fit if those that it keeps do. -/
lemma Sheet.fits_valueAt {sheet : Sheet} (h : ∀ cell ∈ sheet.cells, cell.2.Fits)
    (row column : ℕ) : (sheet.valueAt row column).Fits := by
  rw [valueAt]
  split
  next place value hfind => exact h _ (List.mem_of_find?_eq_some hfind)
  next => exact trivial

/-- The cells of values that fit do. -/
lemma Range.fits_of_placeRow {left : ℕ} {values : List Value} {row : Row}
    (h : placeRow left values = .ok row) (hfits : ∀ value ∈ values, value.Fits) : row.Fits := by
  obtain ⟨cells, hcells, rfl⟩ := exists_of_map_eq_ok h
  intro cell hcell
  rcases List.mem_append.1 hcell with hleft | hcell
  · rw [List.eq_of_mem_replicate hleft]
    exact trivial
  · obtain ⟨value, hvalue, htoCell⟩ := exists_of_mem_mapM hcells hcell
    exact Value.fits_of_toCell (hfits value hvalue) htoCell

/-- The rows of a range of values that fit do. -/
lemma Range.fits_of_toRows {r : Range} {rows : List Row} (h : r.toRows = .ok rows)
    (hfits : ∀ values ∈ r.rows, ∀ value ∈ values, value.Fits) : ∀ row ∈ rows, row.Fits := by
  obtain ⟨placed, hplaced, rfl⟩ := exists_of_map_eq_ok h
  intro row hrow
  rcases List.mem_append.1 hrow with habove | hrow
  · rw [List.eq_of_mem_replicate habove]
    exact fun cell hcell => absurd hcell List.not_mem_nil
  · obtain ⟨values, hvalues, hplace⟩ := exists_of_mem_mapM hplaced hrow
    exact fits_of_placeRow hplace (hfits values hvalues)

/-- The values in use of a sheet are values of the sheet. -/
lemma Sheet.fits_usedRange? {sheet : Sheet} {r : Range} (h : sheet.usedRange? = some r)
    (hfits : ∀ cell ∈ sheet.cells, cell.2.Fits) :
    ∀ values ∈ r.rows, ∀ value ∈ values, value.Fits := by
  simp only [usedRange?_eq_bind, Option.bind_eq_some_iff, Option.some.injEq] at h
  obtain ⟨top, -, bottom, -, left, -, right, -, rfl⟩ := h
  intro values hmem value hvalue
  obtain ⟨row, -, rfl⟩ := List.mem_map.1 hmem
  obtain ⟨column, -, rfl⟩ := List.mem_map.1 hvalue
  exact fits_valueAt hfits row column

/-- The rows of the first sheet of a workbook fit if the values that its sheets keep do. -/
lemma Workbook.fits_of_firstRows {workbook : Workbook} {read : SheetRows}
    (h : workbook.firstRows = .ok read)
    (hfits : ∀ sheet ∈ workbook.sheets, ∀ cell ∈ sheet.cells, cell.2.Fits) :
    ∀ row ∈ read.rows, row.Fits := by
  rw [firstRows] at h
  split at h
  · cases h
  next sheet others hsheets =>
    have hmem : sheet ∈ workbook.sheets := by
      rw [hsheets]
      exact List.mem_cons_self
    split at h
    · cases h
    next range hrange =>
      obtain ⟨rows, hrows, rfl⟩ := exists_of_map_eq_ok h
      exact Range.fits_of_toRows (eq_ok_of_mapError_eq_ok hrows)
        (Sheet.fits_usedRange? hrange (hfits sheet hmem))

/-! ### Reports -/

namespace Report

variable {criteria : Criteria}

/-- A report that can be written as a workbook: no text of its table is too long for a cell. -/
structure IsWritten (report : Report) : Prop where
  texts : ∀ texts ∈ report.table, ∀ text ∈ texts, text.length ≤ 32767
  content : ∃ workbook, report.content .workbook = .ok (.workbook workbook)

/-- The names of the columns are not too long. -/
lemma length_le_of_mem_header {text : String} (h : text ∈ header) :
    text.length ≤ Sheet.textLimit := by
  have hheader : ∀ text ∈ header, text.length ≤ Sheet.textLimit := by decide
  exact hheader text h

/-- Each row that is not blank gives a line. -/
lemma length_lines {rows : List Row} {report : Report}
    (h : assemble rows criteria = .ok report) :
    report.lines.length = rows.countP fun row => !row.isBlank := by
  rw [(covers_of_assemble h).lines, List.length_filterMap_eq_countP]
  refine List.countP_congr fun row _ => ?_
  rw [Bool.not_eq_true', ← Bool.not_eq_true, ← @Line.ofRow?_eq_none_iff row criteria,
    Option.isSome_iff_ne_none]

/-- The report of rows that fit is written. -/
lemma isWritten_of_fits {rows : List Row} {report : Report}
    (hfits : ∀ row ∈ rows, row.Fits) (hcount : rows.countP (fun row => !row.isBlank) ≤ 1048575)
    (h : assemble rows criteria = .ok report) : report.IsWritten := by
  have hcovers := covers_of_assemble h
  have htexts : ∀ texts ∈ report.table, ∀ text ∈ texts, text.length ≤ 32767 := by
    intro texts htexts text htext
    rw [hcovers.table, List.mem_cons, List.mem_map] at htexts
    rcases htexts with rfl | ⟨line, hline, rfl⟩
    · exact length_le_of_mem_header htext
    · rw [hcovers.lines, List.mem_filterMap] at hline
      obtain ⟨row, hrow, hline⟩ := hline
      exact Line.length_le_of_mem_cells hline (hfits row hrow) htext
  rw [← length_lines h] at hcount
  obtain ⟨sheet, hcontent, -⟩ := Fits.exists_content ⟨hcount, htexts⟩
  exact ⟨htexts, ⟨[sheet]⟩, hcontent⟩

/-- **What fits into cells is written.** A report of at most 1048575 rows that are not blank, whose
cells fit, can be written as a workbook: none of its texts is longer than a cell may hold. So can the
report of a workbook in a file, if the values that it stores fit. -/
theorem written_of_fits (criteria : Criteria) :
    (∀ rows report, (∀ row ∈ rows, Row.Fits row) →
      rows.countP (fun row => !row.isBlank) ≤ 1048575 → assemble rows criteria = .ok report →
        report.IsWritten) ∧
    ∀ disk p workbook read report, Disk.workbook disk p = .ok workbook →
      (∀ sheet ∈ workbook.sheets, ∀ cell ∈ sheet.cells, cell.2.Fits) →
      disk.firstRows p = .ok read → read.rows.countP (fun row => !row.isBlank) ≤ 1048575 →
      disk.report p criteria = .ok report → report.IsWritten := by
  refine ⟨fun rows report => isWritten_of_fits, ?_⟩
  intro disk p workbook read report hworkbook hfits hread hcount hreport
  rw [Disk.report_of_firstRows hread] at hreport
  rw [Disk.firstRows_of_workbook hworkbook] at hread
  exact isWritten_of_fits (Workbook.fits_of_firstRows hread hfits) hcount
    (eq_ok_of_mapError_eq_ok hreport)

/-- A search text with one value, which no bar ends. -/
def openText (length : ℕ) : String :=
  "MatchName=" ++ String.ofList (List.replicate length 'x')

lemma length_openText (length : ℕ) : (openText length).length = 10 + length := by
  have hkey : "MatchName=".length = 10 := by decide
  have hvalue : (String.ofList (List.replicate length 'x')).length = length := by
    rw [String.length_ofList, List.length_replicate]
  rw [openText, String.length_append, hkey, hvalue]

/-- A row with the text in both columns that are searched. -/
def openRow (length : ℕ) : Row :=
  List.replicate 22 .empty ++ [.text (openText length)] ++ List.replicate 3 .empty ++
    [.text (openText length)]

lemma fits_openRow {length : ℕ} (h : length ≤ 32757) : (openRow length).Fits := by
  have htext : (Cell.text (openText length)).Fits := by
    show (openText length).length ≤ 32767
    rw [length_openText]
    omega
  have hempty {n : ℕ} : ∀ cell ∈ List.replicate n Cell.empty, cell.Fits := by
    intro cell hcell
    rw [List.eq_of_mem_replicate hcell]
    exact trivial
  rw [openRow, Row.Fits]
  simp only [List.forall_mem_append, List.forall_mem_singleton]
  exact ⟨⟨⟨hempty, htext⟩, hempty⟩, htext⟩

lemma not_isBlank_openRow (length : ℕ) : (openRow length).isBlank = false := by
  have htext : Text.isBlank (openText length) = false := by
    refine Text.isBlank_eq_false_iff.2 ⟨'M', ?_, by decide⟩
    rw [openText, String.toList_append]
    exact List.mem_append_left _ (by decide)
  rw [openRow, Row.isBlank, List.all_append]
  exact Bool.and_eq_false_imp.2 fun _ => by simpa [Cell.isBlank] using htext

/-- A sheet with a serial number outside the calendar, which is read as a text. -/
def lateSheet : Sheet :=
  .ofCells "In"
    [(.ofIndices 0 8, .text "Acme"), (.ofIndices 0 9, .dateTime ⟨.ofNat 100000000, false⟩)]

/-- The row of the sheet. -/
def lateRow : Row :=
  List.replicate 8 .empty ++ [.text "Acme", .text "100000000"]

/-- A file with the sheet. -/
def lateDisk : Disk where
  nodes := [([Utf8.ofString "in.xlsx"], .file (.workbook ⟨[lateSheet]⟩))]
  current := []

/-- Search texts that are too long together have a report that is written, and so has a number that
is read as a text. -/
theorem written_of_fits_long :
    ((openRow 32757).Fits ∧
      32767 < (combinedText (openText 32757) (openText 32757)).length ∧
      ∃ report, assemble [openRow 32757] .empty = .ok report ∧ report.IsWritten) ∧
    lateDisk.firstRows (.ofString "/in.xlsx") = .ok ⟨"In", [lateRow]⟩ ∧
      ∃ report, lateDisk.report (.ofString "/in.xlsx") .empty = .ok report ∧ report.IsWritten := by
  obtain ⟨hrows, hworkbooks⟩ := written_of_fits .empty
  have hassemble (row : Row) (hrow : row.isBlank = false) :
      ∃ report, assemble [row] .empty = .ok report := by
    refine exists_assemble fun hvoid => ?_
    rw [Row.isBlank_iff_isVoid.2 (List.forall_mem_singleton.1 hvoid)] at hrow
    cases hrow
  refine ⟨?_, ?_⟩
  · have hjoined : 32767 < (combinedText (openText 32757) (openText 32757)).length := by
      rw [combinedText]
      simp only [String.length_append, length_openText]
      omega
    have hfits : (openRow 32757).Fits := fits_openRow le_rfl
    obtain ⟨report, hreport⟩ := hassemble _ (not_isBlank_openRow 32757)
    exact ⟨hfits, hjoined, report, hreport, hrows _ report (List.forall_mem_singleton.2 hfits)
      (List.countP_le_length.trans (by decide)) hreport⟩
  · have hworkbook : lateDisk.workbook (.ofString "/in.xlsx") = .ok ⟨[lateSheet]⟩ := by
      decide +kernel
    have hread : lateDisk.firstRows (.ofString "/in.xlsx") = .ok ⟨"In", [lateRow]⟩ := by
      decide +kernel
    obtain ⟨report, hreport⟩ := hassemble lateRow (by decide)
    have hreport : lateDisk.report (.ofString "/in.xlsx") .empty = .ok report := by
      rw [Disk.report_of_firstRows hread, hreport]
      rfl
    exact ⟨hread, report, hreport, hworkbooks _ _ _ _ _ hworkbook (by decide +kernel) hread
      (by decide) hreport⟩

end Report

end Screening
