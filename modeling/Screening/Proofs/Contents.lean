/-
What a file of a report holds.

The names of the columns fill the first row of the table of a report, and every line starts with its
label. So a line too many has a text outside of the sheet, and the report is refused, as it is with a
text too long for a cell. Any other report becomes a workbook whose one sheet shows the table. As JSON
a report of any size is the bytes of its JSON text, which spells the table.

* `Report.pinned_table`: the names and labels that pin the table of a report.
* `Report.Fits`, `Report.exists_content_workbook_iff`: the reports that are workbooks.
* `Report.parse_toJson`: the JSON text is read as the table.
* `Report.IsHeldIn`, `Report.isHeldIn_of_content`: what a file of a report holds.
-/
import Screening.Proofs.Json.Spelling
import Screening.Proofs.Tables
import Screening.Proofs.Trimmed
import Screening.Report.Output

namespace Screening

namespace Report

variable {report : Report} {content : Content}

/-! ### The table of a report -/

/-- Each row of the table has a text for each column. -/
lemma length_of_mem_table {texts : List String} (h : texts ∈ report.table) : texts.length = 21 := by
  rw [table, List.mem_cons, List.mem_map] at h
  rcases h with rfl | ⟨line, -, rfl⟩
  · exact length_header
  · exact line.length_cells

lemma length_table (report : Report) : report.table.length = report.lines.length + 1 := by
  rw [table, List.length_cons, List.length_map]

/-- The names of the columns and the labels of the lines pin the table of a report. -/
lemma pinned_table (report : Report) : Pinned report.table report.lines.length 20 where
  rows := report.length_table
  columns _ := length_of_mem_table
  first := by
    intro row hrow
    cases row with
    | zero =>
      show header.getD 0 "" ≠ ""
      decide
    | succ row =>
      have hline : row < (report.lines.map Line.cells).length := by
        rw [List.length_map]
        omega
      have htext : textAt report.table (row + 1) 0 =
          (report.lines.map Line.cells)[row].getD 0 "" := by
        rw [textAt, table, List.getD_cons_succ, List.getD_eq_getElem _ _ hline]
      rw [htext, List.getElem_map]
      exact Status.label_ne_empty _
  last := by
    show header.getD 20 "" ≠ ""
    decide

/-! ### Reports that fit -/

/-- A report that a sheet has room for below the names of the columns, with texts that cells have
room for. -/
structure Fits (report : Report) : Prop where
  lines : report.lines.length ≤ 1048575
  texts : ∀ texts ∈ report.table, ∀ text ∈ texts, text.length ≤ 32767

/-- The table of a report that fits does. -/
lemma Fits.fits_table (h : report.Fits) : Sheet.Fits report.table where
  rows := by
    rw [length_table]
    exact Nat.succ_le_succ h.lines
  columns texts htexts := by
    rw [length_of_mem_table htexts]
    decide
  texts := h.texts

/-- A report whose table is accepted fits: the label of a line too many would be refused. -/
lemma fits_of_accepts (h : Sheet.Accepts report.table) : report.Fits where
  lines := by
    by_contra hmany
    obtain ⟨hrow, -⟩ := h.places 1048576 0 (report.pinned_table.first 1048576 (by omega))
    exact absurd hrow (by decide)
  texts texts htexts text htext := by
    obtain ⟨row, hrow⟩ := List.mem_iff_getElem?.1 htexts
    obtain ⟨column, hcolumn⟩ := List.mem_iff_getElem?.1 htext
    rw [← Sheet.textAt_of_getElem? hrow hcolumn]
    exact h.texts row column

/-! ### Files of reports -/

/-- **The JSON text of a report is read back**, as the table of the report. -/
theorem parse_toJson (report : Report) :
    (Json.Reader.list (.list .string)).parse report.toJson = .ok report.table :=
  (Json.spells_listOf Json.Layout.blank_indented 0
    (Json.spells_ofStrings Json.Layout.blank_indented 1) report.table).parse_eq

/-- What a file of a report holds: as JSON the bytes of the JSON text, which is read as the table, and
otherwise a workbook with one sheet, which shows the table. -/
def IsHeldIn (report : Report) (json : Bool) (content : Content) : Prop :=
  match json with
  | true =>
    content = .bytes (Utf8.ofString report.toJson) ∧
      (Json.Reader.list (.list .string)).parse report.toJson = .ok report.table
  | false =>
    ∃ sheet, content = .workbook ⟨[sheet]⟩ ∧ sheet.name = "Processed Report" ∧
      sheet.Shows report.table

/-- A report that fits makes a workbook with one sheet, which shows its table. -/
lemma Fits.exists_content (h : report.Fits) :
    ∃ sheet, report.content .workbook = .ok (.workbook ⟨[sheet]⟩) ∧
      sheet.name = Sheet.reportName ∧ sheet.Shows report.table := by
  obtain ⟨sheet, htable, hname, hshows⟩ := Workbook.exists_ofTable h.fits_table
  refine ⟨sheet, ?_, hname, hshows⟩
  rw [Report.content, htable]
  rfl

/-- Only a report that fits makes a workbook. -/
lemma fits_of_content (h : report.content .workbook = .ok content) : report.Fits := by
  refine fits_of_accepts (Workbook.exists_ofTable_iff.1 ?_)
  cases htable : Workbook.ofTable report.table with
  | error e =>
    rw [Report.content, htable] at h
    cases h
  | ok workbook => exact ⟨workbook, rfl⟩

/-- A report makes a workbook exactly if it fits. -/
lemma exists_content_workbook_iff :
    (∃ content, report.content .workbook = .ok content) ↔ report.Fits := by
  constructor
  · rintro ⟨content, hcontent⟩
    exact fits_of_content hcontent
  · intro hfits
    obtain ⟨sheet, hcontent, -⟩ := hfits.exists_content
    exact ⟨_, hcontent⟩

/-- The content that is made of a report in a form holds the report. -/
lemma isHeldIn_of_content {format : Format} (h : report.content format = .ok content) :
    report.IsHeldIn (format == .json) content := by
  cases format with
  | json =>
    cases h
    exact ⟨rfl, report.parse_toJson⟩
  | workbook =>
    obtain ⟨sheet, hcontent, hname, hshows⟩ := (fits_of_content h).exists_content
    rw [h] at hcontent
    cases hcontent
    exact ⟨sheet, rfl, hname, hshows⟩

end Report

end Screening
