/-
Reports that are read back.

Names and labels pin the table of a report, so the rectangle in use of a written report is its whole
table; and as the texts of a report are trimmed, what is read of the cells is what was written. The
JSON text of the report spells the same table.

The ending of the path has a say: a file is not read under an ending that promises another format,
whatever was written to it.

* `Report.IsReadAs`: the rows that are read are those of the table.
* `Disk.firstRows_write`: a written workbook is read.
* `Report.save_then_read`: both forms of a report give its table back.
-/
import Screening.Proofs.Delivery

namespace Screening

/-! ### The rows that are read -/

/-- The rows that are read of a report: a row for the header and for each line, all of the same
width, with the texts of the table in their cells. -/
structure Report.IsReadAs (report : Report) (sheet : SheetRows) : Prop where
  name : sheet.name = "Processed Report"
  length : sheet.rows.length = report.lines.length + 1
  width : ∀ row ∈ sheet.rows, row.length = 21
  texts : ∀ r < report.lines.length + 1, ∃ row texts, sheet.rows[r]? = some row ∧
    report.table[r]? = some texts ∧ ∀ c < 21, texts[c]? = some (row.get c)

/-- A trimmed text is got back from the cell that it is read as. -/
lemma Row.get_map_ofText {texts : List String} (htrim : ∀ text ∈ texts, Text.trim text = text)
    {column : ℕ} (hcolumn : column < texts.length) :
    texts[column]? = some (Row.get (texts.map Cell.ofText) column) := by
  have hcell : (texts.map Cell.ofText)[column]? = some (Cell.ofText texts[column]) := by
    rw [List.getElem?_map, List.getElem?_eq_getElem hcolumn]
    rfl
  rw [get, hcell, List.getElem?_eq_getElem hcolumn]
  dsimp only
  rw [Cell.asText_ofText, htrim _ (List.getElem_mem hcolumn)]

/-- The cells that the texts of a report are read as give the texts back. -/
lemma Report.isReadAs {rows : List Row} {criteria : Criteria} {report : Report}
    (hreport : assemble rows criteria = .ok report) :
    report.IsReadAs ⟨"Processed Report", report.table.map (List.map Cell.ofText)⟩ where
  name := rfl
  length := by rw [List.length_map, length_table]
  width := by
    intro row hrow
    obtain ⟨texts, htexts, rfl⟩ := List.mem_map.1 hrow
    rw [List.length_map, length_of_mem_table htexts]
  texts := by
    intro r hr
    rw [← length_table] at hr
    have hmem := List.getElem_mem hr
    refine ⟨report.table[r].map Cell.ofText, report.table[r], ?_, List.getElem?_eq_getElem hr, ?_⟩
    · rw [List.getElem?_map, List.getElem?_eq_getElem hr]
      rfl
    · intro c hc
      rw [← length_of_mem_table hmem] at hc
      exact Row.get_map_ofText (fun text htext => trim_of_mem_table hreport hmem htext) hc

namespace Disk

variable {disk disk' : Disk} {p : Path} {workbook : Workbook}

/-- Four endings of a path promise another format. -/
lemma any_otherFormats_iff (p : Path) :
    p.extension?.any otherFormats.contains = true ↔
      ∃ ending ∈ ["xls", "xla", "xlsb", "ods"], p.extension? = some (Utf8.ofString ending) := by
  simp only [Option.any_eq_true, List.contains_iff_mem, otherFormats, List.mem_map]
  constructor
  · rintro ⟨_, hextension, ending, hending, rfl⟩
    exact ⟨ending, hending, hextension⟩
  · rintro ⟨ending, hending, hextension⟩
    exact ⟨_, hextension, ending, hending, rfl⟩

/-- A written workbook is read from its file, unless the ending of the path promises another
format. -/
lemma firstRows_write (h : disk.write p (.workbook workbook) = .ok disk')
    (hending : ∀ ending ∈ ["xls", "xla", "xlsb", "ods"],
      p.extension? ≠ some (Utf8.ofString ending)) :
    disk'.firstRows p = workbook.firstRows := by
  have hother : p.extension?.any otherFormats.contains = false := by
    rw [← Bool.not_eq_true, any_otherFormats_iff]
    rintro ⟨ending, hmem, hextension⟩
    exact hending ending hmem hextension
  rw [firstRows, Disk.workbook, contains_write h, hother, read_write h]
  rfl

/-- Under an ending that promises another format nothing is read, whatever was written. -/
lemma firstRows_of_otherFormat {content : Content} (h : disk.write p content = .ok disk')
    (hending : ∃ ending ∈ ["xls", "xla", "xlsb", "ods"],
      p.extension? = some (Utf8.ofString ending)) :
    disk'.firstRows p = .error .notWorkbook := by
  rw [firstRows, Disk.workbook, contains_write h, (any_otherFormats_iff p).2 hending]
  rfl

end Disk

namespace Report

variable {rows : List Row} {criteria : Criteria} {report : Report}

/-- **A report is read back.** A report with at most 1048575 lines and no text of more than 32767
characters is written as a workbook wherever a file can be written. Its table is read from the file,
unless the path ends in `xls`, `xla`, `xlsb` or `ods`, and then nothing is read. Its JSON text is read
as the same table. -/
theorem save_then_read (hreport : assemble rows criteria = .ok report)
    (hlines : report.lines.length ≤ 1048575)
    (htexts : ∀ texts ∈ report.table, ∀ text ∈ texts, text.length ≤ 32767) :
    (∀ disk p place, Disk.Writable disk p place →
      ∃ disk', report.save disk .workbook p = .ok disk' ∧
        ((∀ ending ∈ ["xls", "xla", "xlsb", "ods"], p.extension? ≠ some (Utf8.ofString ending)) →
          ∃ sheet, disk'.firstRows p = .ok sheet ∧ report.IsReadAs sheet) ∧
        ((∃ ending ∈ ["xls", "xla", "xlsb", "ods"], p.extension? = some (Utf8.ofString ending)) →
          disk'.firstRows p = .error .notWorkbook)) ∧
    (Json.Reader.list (.list .string)).parse report.toJson = .ok report.table := by
  refine ⟨?_, report.parse_toJson⟩
  intro disk p place hplace
  obtain ⟨sheet, hcontent, hname, hshows⟩ := Fits.exists_content ⟨hlines, htexts⟩
  have hwrite := hplace.write_eq (.workbook ⟨[sheet]⟩)
  refine ⟨_, save_eq_ok_iff.2 ⟨_, hcontent, hwrite⟩, ?_, Disk.firstRows_of_otherFormat hwrite⟩
  intro hending
  have hread := Workbook.firstRows_of_shows hshows report.pinned_table
  rw [hname] at hread
  exact ⟨_, (Disk.firstRows_write hwrite hending).trans hread, isReadAs hreport⟩

/-- A row with a customer and a search text, both with white space to trim. -/
def acmeRow : Row :=
  List.replicate 8 .empty ++ [.text " Acme "] ++ List.replicate 13 .empty ++
    [.text "MatchName= Bob |"]

/-- The report of the row. -/
def acmeReport : Report where
  lines :=
    [{ status := .noAddress, file := "", reference := "", customer := "Acme", city := "", ctr := "",
       matchNames := .ofList ["Bob"], denialTypes := .ofList [], splitIds := .ofList [] }]
  skipped := 0

/-- The report of the row is read back from a file in the root. -/
theorem save_then_read_acme :
    assemble [acmeRow] .empty = .ok acmeReport ∧
      (∃ disk', acmeReport.save Settings.emptyRoot .workbook (.ofString "/out.xlsx") = .ok disk' ∧
        ∃ sheet, disk'.firstRows (.ofString "/out.xlsx") = .ok sheet ∧ acmeReport.IsReadAs sheet) ∧
      (Json.Reader.list (.list .string)).parse acmeReport.toJson = .ok acmeReport.table := by
  have hreport : assemble [acmeRow] .empty = .ok acmeReport := by decide +kernel
  have hplace : Settings.emptyRoot.Writable (.ofString "/out.xlsx") [Utf8.ofString "out.xlsx"] :=
    ⟨by decide, by decide, ⟨[], by decide, by decide⟩, by decide⟩
  obtain ⟨hworkbook, hjson⟩ := save_then_read hreport (by decide) (by decide +kernel)
  obtain ⟨disk', hsave, hread, -⟩ := hworkbook _ _ _ hplace
  exact ⟨hreport, ⟨disk', hsave, hread (by decide)⟩, hjson⟩

/-- The ending of the path matters: the report of the row is written to a file whose name promises
another format, and it is not read from there. -/
theorem not_read_under_xls :
    assemble [acmeRow] .empty = .ok acmeReport ∧ acmeReport.lines.length ≤ 1048575 ∧
      (∀ texts ∈ acmeReport.table, ∀ text ∈ texts, text.length ≤ 32767) ∧
      ∃ disk', acmeReport.save Settings.emptyRoot .workbook (.ofString "/out.xls") = .ok disk' ∧
        ¬∃ sheet, disk'.firstRows (.ofString "/out.xls") = .ok sheet := by
  have hlines : acmeReport.lines.length ≤ 1048575 := by decide
  have htexts : ∀ texts ∈ acmeReport.table, ∀ text ∈ texts, text.length ≤ 32767 := by
    decide +kernel
  have hplace : Settings.emptyRoot.Writable (.ofString "/out.xls") [Utf8.ofString "out.xls"] :=
    ⟨by decide, by decide, ⟨[], by decide, by decide⟩, by decide⟩
  obtain ⟨sheet, hcontent, -⟩ := Fits.exists_content ⟨hlines, htexts⟩
  have hwrite := hplace.write_eq (.workbook ⟨[sheet]⟩)
  refine ⟨by decide +kernel, hlines, htexts, _, save_eq_ok_iff.2 ⟨_, hcontent, hwrite⟩, ?_⟩
  rw [Disk.firstRows_of_otherFormat hwrite ⟨"xls", by decide, by decide⟩]
  exact nofun

end Report

end Screening
