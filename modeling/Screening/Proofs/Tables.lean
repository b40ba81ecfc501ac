/-
Tables in sheets.

A table that a sheet has room for is written whole: the sheet shows a value for every text that is
not empty, in its row and column, and nothing elsewhere. If every row of the table starts with a text
and the first one ends with one, then the rectangle in use of the sheet is the whole table, so the
rows that are read are those that were written.

* `Sheet.Fits`, `Workbook.exists_ofTable`: a table that fits is written.
* `Sheet.Shows.box`: the rectangle in use is the whole table.
* `Workbook.firstRows_of_shows`: the rows that are read from it.
-/
import Screening.Proofs.Extent
import Screening.Proofs.Writing
import Screening.Report.Input

namespace Screening

variable {table : List (List String)}

/-! ### Tables that fit -/

/-- A table that a sheet has room for, with texts that cells have room for. -/
structure Sheet.Fits (table : List (List String)) : Prop where
  rows : table.length ≤ rowLimit
  columns : ∀ texts ∈ table, texts.length ≤ columnLimit
  texts : ∀ texts ∈ table, ∀ text ∈ texts, text.length ≤ textLimit

/-- The texts of such a table are at places in the sheet. -/
lemma Sheet.Fits.lt_of_textAt_ne_empty (h : Fits table) {row column : ℕ}
    (htext : textAt table row column ≠ "") : row < rowLimit ∧ column < columnLimit :=
  Screening.lt_of_textAt_ne_empty h.rows h.columns htext

/-- A table that fits is accepted. -/
lemma Sheet.Fits.accepts (h : Fits table) : Accepts table where
  header := by
    cases table with
    | nil => exact Nat.zero_le _
    | cons header table => exact h.columns header List.mem_cons_self
  places row column htext := by
    obtain ⟨hrow, hcolumn⟩ := h.lt_of_textAt_ne_empty htext
    exact ⟨Nat.lt_of_le_of_lt (Nat.mod_le _ _) hrow, Nat.lt_of_le_of_lt (Nat.mod_le _ _) hcolumn⟩
  texts row column := by
    by_cases htext : textAt table row column = ""
    · rw [htext]
      exact Nat.zero_le _
    · obtain ⟨hrow, hcolumn⟩ := exists_of_textAt_ne_empty htext
      rw [textAt_of_getElem? (List.getElem?_eq_getElem hrow) (List.getElem?_eq_getElem hcolumn)]
      exact h.texts _ (List.getElem_mem hrow) _ (List.getElem_mem hcolumn)

/-- A table that fits is written as a sheet that shows it. -/
lemma Workbook.exists_ofTable (h : Sheet.Fits table) :
    ∃ sheet, ofTable table = .ok ⟨[sheet]⟩ ∧ sheet.name = Sheet.reportName ∧ sheet.Shows table := by
  obtain ⟨workbook, hwrite⟩ := exists_ofTable_iff.2 h.accepts
  obtain ⟨sheet, rfl, hname, hholds⟩ := exists_holdsLast hwrite
  refine ⟨sheet, hwrite, hname, hholds.shows_iff.2 fun row column htext => ?_⟩
  obtain ⟨hrow, hcolumn⟩ := h.lt_of_textAt_ne_empty htext
  exact ⟨Nat.lt_of_lt_of_le hrow (by decide), Nat.lt_of_lt_of_le hcolumn (by decide)⟩

/-! ### The rectangle in use -/

/-- A table whose rows start with a text and whose first row ends with one; its last row and its last
column are given. -/
structure Pinned (table : List (List String)) (bottom right : ℕ) : Prop where
  rows : table.length = bottom + 1
  columns : ∀ texts ∈ table, texts.length = right + 1
  first : ∀ row ≤ bottom, textAt table row 0 ≠ ""
  last : textAt table 0 right ≠ ""

namespace Sheet.Shows

variable {sheet : Sheet} {bottom right : ℕ}

/-- There is a value exactly where the table has a text. -/
lemma valueAt_ne_empty_iff (h : sheet.Shows table) {row column : ℕ} :
    sheet.valueAt row column ≠ .empty ↔ textAt table row column ≠ "" := by
  rw [h, Value.ofText]
  split
  next hempty => exact iff_of_false (fun hne => hne rfl) (fun hne => hne hempty)
  next hempty => exact iff_of_true (by simp) hempty

/-- The whole table is the smallest rectangle around the values of the sheet that shows it. -/
lemma box (h : sheet.Shows table) (hp : Pinned table bottom right) :
    sheet.Box 0 0 bottom right where
  inside row column hvalue := by
    obtain ⟨hrow, hcolumn⟩ := exists_of_textAt_ne_empty (h.valueAt_ne_empty_iff.1 hvalue)
    rw [hp.columns _ (List.getElem_mem hrow)] at hcolumn
    rw [hp.rows] at hrow
    omega
  top_used := ⟨0, h.valueAt_ne_empty_iff.2 (hp.first 0 (Nat.zero_le _))⟩
  left_used := ⟨0, h.valueAt_ne_empty_iff.2 (hp.first 0 (Nat.zero_le _))⟩
  bottom_used := ⟨0, h.valueAt_ne_empty_iff.2 (hp.first bottom (Nat.le_refl _))⟩
  right_used := ⟨0, h.valueAt_ne_empty_iff.2 hp.last⟩

end Sheet.Shows

/-! ### The rows that are read -/

/-- The cell that a text is read as. -/
def Cell.ofText (text : String) : Cell :=
  if text = "" then .empty else .text text

/-- The text of the cell is the one that was written. -/
lemma Cell.asText_ofText (text : String) : (Cell.ofText text).asText = text := by
  rw [ofText]
  split
  next h => rw [h]; rfl
  next => rfl

lemma Value.toCell_ofText (text : String) : (ofText text).toCell = .ok (.ofText text) := by
  rw [ofText, Cell.ofText]
  split <;> rfl

lemma Value.cell_ofText (text : String) : (ofText text).cell = .ofText text := by
  rw [cell, toCell_ofText]
  rfl

/-- The texts at all places of a table make up the table. -/
lemma map_range_textAt {bottom right : ℕ} (hp : Pinned table bottom right) {α : Type}
    (f : String → α) :
    ((List.range' 0 (bottom + 1)).map fun row =>
      (List.range' 0 (right + 1)).map fun column => f (textAt table row column)) =
      table.map (List.map f) := by
  refine List.ext_getElem (by simp [hp.rows]) fun row hrow hrow' => ?_
  rw [List.length_map] at hrow'
  have hcolumns := hp.columns _ (List.getElem_mem hrow')
  simp only [List.getElem_map]
  refine List.ext_getElem (by simp [hcolumns]) fun column hcolumn hcolumn' => ?_
  rw [List.length_map] at hcolumn'
  simp only [List.getElem_map, List.getElem_range', Nat.zero_add, Nat.one_mul, textAt]
  rw [List.getD_eq_getElem _ _ hrow', List.getD_eq_getElem _ _ hcolumn']

/-- The rows of a sheet that shows a table are those of the table. -/
lemma Sheet.Shows.toRows_range {sheet : Sheet} {bottom right : ℕ} (h : sheet.Shows table)
    (hp : Pinned table bottom right) :
    (sheet.range 0 0 bottom right).toRows = .ok (table.map (List.map Cell.ofText)) := by
  have hvalues : (sheet.range 0 0 bottom right).rows = table.map (List.map Value.ofText) := by
    rw [← map_range_textAt hp]
    simp only [range, Nat.sub_zero, h _ _]
  have hcells : ∀ cells ∈ (sheet.range 0 0 bottom right).rows, ∀ value ∈ cells,
      ¬value.IsFarBelow := by
    rw [hvalues]
    intro cells hmem value hvalue
    obtain ⟨texts, -, rfl⟩ := List.mem_map.1 hmem
    obtain ⟨text, -, rfl⟩ := List.mem_map.1 hvalue
    exact Value.exists_toCell_iff.1 ⟨_, Value.toCell_ofText text⟩
  rw [Range.toRows_eq_ok hcells, Range.cellRows, hvalues]
  simp [range, Value.cell_ofText]

/-- **What is written is read.** The rows that are read from a sheet which shows a table are those
of the table. -/
theorem Workbook.firstRows_of_shows {sheet : Sheet} {bottom right : ℕ} (h : sheet.Shows table)
    (hp : Pinned table bottom right) :
    firstRows ⟨[sheet]⟩ = .ok ⟨sheet.name, table.map (List.map Cell.ofText)⟩ := by
  rw [firstRows]
  dsimp only
  rw [(h.box hp).usedRange?_eq]
  dsimp only
  rw [h.toRows_range hp]
  rfl

end Screening
