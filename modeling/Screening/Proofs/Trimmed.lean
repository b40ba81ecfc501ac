/-
Trimmed texts of a report.

What a line takes from a row is read trimmed, the values of a search text are trimmed when they are
found, and the labels and the names of the columns have no white space at their ends. So no text of
a report has any, and trimming the texts of a table once more changes nothing.

* `Line.cells_of_ofRow?`: what the texts of a line are taken from.
* `Line.trim_of_mem_cells`: the texts of a line.
* `Report.trim_of_mem_table`: the texts of the table of a report.
-/
import Screening.Proofs.Assembly
import Screening.Proofs.Pieces
import Screening.Proofs.Rendering

namespace Screening

open Text (trim trim_trim)

/-- The text of a column is trimmed. -/
lemma Row.trim_get (row : Row) (column : ℕ) : trim (row.get column) = row.get column := by
  rw [get]
  cases row[column]? with
  | none => rfl
  | some cell => exact trim_trim _

/-- A value that is found is trimmed. -/
lemma FieldKey.trim_of_mem_extract {key : FieldKey} {text value : String}
    (h : value ∈ key.extract text) : trim value = value :=
  (Field.of_mem_extract h).2.1

/-- A slot holds one of the values or nothing. -/
lemma Slots.eq_empty_or_mem {values : List String} {text : String}
    (h : text ∈ (Slots.ofList values).toList) : text = "" ∨ text ∈ values := by
  rw [ofList, Vector.toList_ofFn, List.mem_ofFn] at h
  obtain ⟨i, hi⟩ := h
  by_cases hempty : text = ""
  · exact .inl hempty
  · exact .inr (mem_of_getD_eq hi hempty)

/-- The slots of a line hold trimmed texts. -/
lemma Slots.trim_of_mem {key : FieldKey} {text value : String}
    (h : value ∈ (Slots.ofList (key.firstValues text)).toList) : trim value = value := by
  rcases eq_empty_or_mem h with rfl | hmem
  · rfl
  · exact FieldKey.trim_of_mem_extract (List.mem_of_mem_take hmem)

/-- A label is trimmed. -/
lemma Status.trim_label (status : Status) : trim status.label = status.label := by
  cases status <;> decide

/-- No label is empty. -/
lemma Status.label_ne_empty (status : Status) : status.label ≠ "" := by
  cases status <;> decide

namespace Line

variable {row : Row} {criteria : Criteria} {line : Line}

/-- The texts of the line of a row: a label, five columns of the row, and the first values of each
key in its search texts. -/
lemma cells_of_ofRow? (h : ofRow? row criteria = some line) :
    ∃ status : Status, line.cells =
      [status.label, row.get Column.file, row.get Column.reference, row.get Column.customer,
        row.get Column.city, row.get Column.ctr] ++
      FieldKey.all.flatMap fun key => (Slots.ofList (key.firstValues
        (combinedText (row.get Column.textA) (row.get Column.textB)))).toList := by
  rw [ofRow?] at h
  split at h
  · cases h
  · cases h
    exact ⟨_, cells_eq_flatMap _⟩

/-- **The texts of a line are trimmed.** -/
theorem trim_of_mem_cells (h : ofRow? row criteria = some line) {text : String}
    (htext : text ∈ line.cells) : trim text = text := by
  obtain ⟨status, hcells⟩ := cells_of_ofRow? h
  rw [hcells, List.mem_append, List.mem_flatMap] at htext
  rcases htext with hcolumn | ⟨key, -, hslot⟩
  · simp only [List.mem_cons, List.not_mem_nil, or_false] at hcolumn
    rcases hcolumn with rfl | rfl | rfl | rfl | rfl | rfl
    · exact Status.trim_label status
    all_goals exact Row.trim_get row _
  · exact Slots.trim_of_mem hslot

end Line

namespace Report

/-- A name of a column is trimmed. -/
lemma trim_of_mem_header {text : String} (h : text ∈ header) : trim text = text := by
  have hheader : ∀ text ∈ header, trim text = text := by decide
  exact hheader text h

/-- **The texts of a report are trimmed.** -/
theorem trim_of_mem_table {rows : List Row} {criteria : Criteria} {report : Report}
    (h : assemble rows criteria = .ok report) {texts : List String} (htexts : texts ∈ report.table)
    {text : String} (htext : text ∈ texts) : trim text = text := by
  have hcovers := covers_of_assemble h
  rw [hcovers.table, List.mem_cons, List.mem_map] at htexts
  rcases htexts with rfl | ⟨line, hline, rfl⟩
  · exact trim_of_mem_header htext
  · rw [hcovers.lines, List.mem_filterMap] at hline
    obtain ⟨row, -, hrow⟩ := hline
    exact Line.trim_of_mem_cells hrow htext

end Report

end Screening
