/-
The report of the rows of a sheet.

The rows are gone through once. What is gathered after some of them are the lines of those that are
not blank, in their order, and the number of the others; so the lines and the blank rows of a report
make up all rows. A row is left out only if every cell of it is empty or holds white space, which no
cell with a text and no error cell does.

* `Gathered.Holds`: the invariant of the loop, with `Gathered.Holds.add` and `Gathered.Holds.foldl`.
* `Report.Covers`: what a report has to be for its rows.
* `Report.assemble_eq`, `Report.assemble_congr`: rows are assembled by the lines that they become.
* `Report.assemble_iff`: the two errors and the report, each with its condition.
-/
import Mathlib.Data.List.Infix
import Screening.Report

namespace Screening

/-! ### Blank rows -/

/-- A cell without a value: an empty one, or a text of white space only. -/
def Cell.IsVoid (cell : Cell) : Prop :=
  cell = .empty ∨ ∃ s, cell = .text s ∧ ∀ c ∈ s.toList, Text.isSpace c = true

/-- A cell is blank when it has no value. -/
lemma Cell.isBlank_iff_isVoid {cell : Cell} : cell.isBlank = true ↔ cell.IsVoid := by
  cases cell <;> simp [isBlank, IsVoid, Text.isBlank_iff]

/-- The text of a cell without a value is trimmed to nothing. -/
lemma Cell.IsVoid.trim_asText {cell : Cell} (h : cell.IsVoid) : Text.trim cell.asText = "" := by
  rcases h with rfl | ⟨s, rfl, hs⟩
  · rfl
  · exact Text.trim_eq_empty_iff.2 (Text.isBlank_iff.2 hs)

namespace Row

variable {row : Row}

/-- A row without values. -/
def IsVoid (row : Row) : Prop :=
  ∀ cell ∈ row, cell.IsVoid

lemma isBlank_iff_isVoid : row.isBlank = true ↔ row.IsVoid := by
  rw [isBlank, List.all_eq_true]
  exact forall₂_congr fun cell _ => Cell.isBlank_iff_isVoid

/-- No column of a blank row has a text. -/
lemma get_eq_empty (h : row.IsVoid) (column : ℕ) : row.get column = "" := by
  rw [get]
  cases hcell : row[column]? with
  | none => rfl
  | some cell => exact (h cell (List.mem_of_getElem? hcell)).trim_asText

/-- No cell of a blank row holds an error. -/
lemma error_not_mem (h : row.IsVoid) (name : String) : Cell.error name ∉ row := by
  intro hmem
  rcases h _ hmem with h | ⟨s, h, -⟩ <;> cases h

end Row

/-- A row becomes no line exactly if none of its cells has a value. -/
lemma Line.ofRow?_eq_none_iff_isVoid {row : Row} {criteria : Criteria} :
    ofRow? row criteria = none ↔ row.IsVoid :=
  ofRow?_eq_none_iff.trans Row.isBlank_iff_isVoid

/-! ### The loop -/

namespace Report

variable {criteria : Criteria}

/-- What is gathered of the rows so far: the lines of those that give one, and the number of the
others. -/
structure Gathered.Holds (gathered : Gathered) (criteria : Criteria) (rows : List Row) : Prop where
  lines : gathered.lines.reverse = rows.filterMap (Line.ofRow? · criteria)
  count : gathered.lines.length + gathered.blank = rows.length

lemma Gathered.holds_start : Gathered.start.Holds criteria [] :=
  ⟨rfl, rfl⟩

/-- One more row keeps the invariant. -/
lemma Gathered.Holds.add {gathered : Gathered} {rows : List Row}
    (h : gathered.Holds criteria rows) (row : Row) :
    (gathered.add criteria row).Holds criteria (rows ++ [row]) := by
  obtain ⟨hlines, hcount⟩ := h
  rw [Gathered.add]
  cases hline : Line.ofRow? row criteria with
  | none =>
    refine ⟨?_, ?_⟩
    · rw [List.filterMap_append, hlines]
      simp [hline]
    · rw [List.length_append, ← hcount]
      rfl
  | some line =>
    refine ⟨?_, ?_⟩
    · rw [List.filterMap_append, List.reverse_cons, hlines]
      simp [hline]
    · rw [List.length_append, ← hcount]
      exact Nat.add_right_comm _ _ _

/-- All further rows keep the invariant. -/
lemma Gathered.Holds.foldl {gathered : Gathered} {before : List Row}
    (h : gathered.Holds criteria before) (rows : List Row) :
    (rows.foldl (Gathered.add criteria) gathered).Holds criteria (before ++ rows) := by
  induction rows generalizing gathered before with
  | nil => rwa [List.append_nil]
  | cons row rows ih =>
    have hnext := ih (h.add row)
    rwa [List.append_assoc, List.singleton_append] at hnext

/-- What the loop has gathered at its end. -/
lemma holds_foldl (rows : List Row) (criteria : Criteria) :
    (rows.foldl (Gathered.add criteria) .start).Holds criteria rows :=
  Gathered.holds_start.foldl rows

/-- Lines are gathered exactly if there is a row with a value. -/
lemma Gathered.Holds.lines_eq_nil_iff {gathered : Gathered} {rows : List Row}
    (h : gathered.Holds criteria rows) :
    gathered.lines = [] ↔ ∀ row ∈ rows, row.IsVoid := by
  rw [← List.reverse_eq_nil_iff, h.lines, List.filterMap_eq_nil_iff]
  exact forall₂_congr fun row _ => Line.ofRow?_eq_none_iff_isVoid

/-! ### Reports -/

/-- A report covers rows if its lines are those of the rows that give one, in their order, and it
counts all others; its table is the header and the lines. -/
structure Covers (report : Report) (rows : List Row) (criteria : Criteria) : Prop where
  lines : report.lines = rows.filterMap (Line.ofRow? · criteria)
  count : report.lines.length + report.skipped = rows.length
  table : report.table = header :: report.lines.map Line.cells
  wide : ∀ texts ∈ report.table, texts.length = 21

/-- What is gathered of some rows, made a report. -/
lemma Gathered.Holds.covers {gathered : Gathered} {rows : List Row}
    (h : gathered.Holds criteria rows) :
    Covers ⟨gathered.lines.reverse, gathered.blank⟩ rows criteria := by
  refine ⟨h.lines, ?_, rfl, fun texts htexts => ?_⟩
  · rw [List.length_reverse]
    exact h.count
  · rcases List.mem_cons.1 htexts with rfl | hline
    · exact length_header
    · obtain ⟨line, -, rfl⟩ := List.mem_map.1 hline
      exact line.length_cells

/-- A report that is assembled covers its rows. -/
lemma covers_of_assemble {rows : List Row} {report : Report}
    (h : assemble rows criteria = .ok report) : report.Covers rows criteria := by
  rw [assemble] at h
  split at h
  · cases h
  dsimp only at h
  split at h
  · cases h
  · cases h
    exact (holds_foldl rows criteria).covers

/-- What is assembled depends on the lines that the rows become and on how many rows there are. -/
lemma assemble_eq (rows : List Row) (criteria : Criteria) :
    assemble rows criteria =
      if rows = [] then .error .noRows
      else if rows.filterMap (Line.ofRow? · criteria) = [] then .error .noContent
      else .ok ⟨rows.filterMap (Line.ofRow? · criteria),
        rows.length - (rows.filterMap (Line.ofRow? · criteria)).length⟩ := by
  obtain ⟨hlines, hcount⟩ := holds_foldl rows criteria
  rw [assemble, ← hlines, ← hcount, List.length_reverse, Nat.add_sub_cancel_left]
  simp only [List.isEmpty_iff, List.reverse_eq_nil_iff]

/-- Rows are assembled by the lines that they become. -/
lemma assemble_congr {rows rows' : List Row}
    (h : rows.map (Line.ofRow? · criteria) = rows'.map (Line.ofRow? · criteria)) :
    assemble rows criteria = assemble rows' criteria := by
  have hlines : rows.filterMap (Line.ofRow? · criteria) =
      rows'.filterMap (Line.ofRow? · criteria) := by
    have hmap : ∀ rows : List Row, rows.filterMap (Line.ofRow? · criteria) =
        (rows.map (Line.ofRow? · criteria)).filterMap id := fun rows => by
      rw [List.filterMap_map]
      rfl
    rw [hmap, hmap, h]
  have hlength : rows.length = rows'.length := by
    simpa using congrArg List.length h
  have hnil : rows = [] ↔ rows' = [] := by
    rw [← List.length_eq_zero_iff, hlength, List.length_eq_zero_iff]
  simp only [assemble_eq, hlines, hlength, hnil]

/-- Rows that are not all blank are assembled to a report. -/
lemma exists_assemble {rows : List Row} (h : ¬∀ row ∈ rows, row.IsVoid) :
    ∃ report, assemble rows criteria = .ok report := by
  have hlines : rows.filterMap (Line.ofRow? · criteria) ≠ [] := by
    intro hnil
    rw [List.filterMap_eq_nil_iff] at hnil
    exact h fun row hrow => Line.ofRow?_eq_none_iff_isVoid.1 (hnil row hrow)
  have hrows : rows ≠ [] := by
    rintro rfl
    exact hlines rfl
  exact ⟨_, by rw [assemble_eq, if_neg hrows, if_neg hlines]⟩

/-- **Assembly.** Without rows, and with blank ones only, there is an error; otherwise there is a
report that covers the rows. Only a row without values has no line, and such a row has neither a
text in any column nor an error cell. -/
theorem assemble_iff (rows : List Row) (criteria : Criteria) :
    (assemble rows criteria = .error .noRows ↔ rows = []) ∧
    (assemble rows criteria = .error .noContent ↔
      rows ≠ [] ∧ ∀ row ∈ rows, row.IsVoid) ∧
    ((∃ report, assemble rows criteria = .ok report ∧ report.Covers rows criteria) ↔
      ¬∀ row ∈ rows, row.IsVoid) ∧
    InputError.noRows.reason = "sheet has no rows" ∧
    InputError.noContent.reason = "sheet has no readable content" ∧
    ∀ row, (Line.ofRow? row criteria = none ↔ row.IsVoid) ∧
      (Line.ofRow? row criteria = none →
        (∀ column, row.get column = "") ∧ ∀ name, Cell.error name ∉ row) := by
  have hrow : ∀ row, (Line.ofRow? row criteria = none ↔ row.IsVoid) ∧
      (Line.ofRow? row criteria = none →
        (∀ column, row.get column = "") ∧ ∀ name, Cell.error name ∉ row) := by
    intro row
    refine ⟨Line.ofRow?_eq_none_iff_isVoid, fun h => ?_⟩
    have hvoid := Line.ofRow?_eq_none_iff_isVoid.1 h
    exact ⟨Row.get_eq_empty hvoid, Row.error_not_mem hvoid⟩
  have hholds := holds_foldl rows criteria
  have hnil := hholds.lines_eq_nil_iff
  by_cases hrows : rows = []
  · subst hrows
    refine ⟨?_, ?_, ?_, rfl, rfl, hrow⟩ <;> simp [assemble]
  · by_cases hvoid : ∀ row ∈ rows, row.IsVoid
    · have herror : assemble rows criteria = .error .noContent := by
        simp [assemble, hrows, hnil.2 hvoid]
      rw [herror]
      exact ⟨iff_of_false (by simp) hrows, iff_of_true rfl ⟨hrows, hvoid⟩,
        iff_of_false (by simp) (fun h => h hvoid), rfl, rfl, hrow⟩
    · have hlines := mt hnil.1 hvoid
      have hok : assemble rows criteria =
          .ok ⟨(rows.foldl (Gathered.add criteria) .start).lines.reverse,
            (rows.foldl (Gathered.add criteria) .start).blank⟩ := by
        simp [assemble, hrows, hlines]
      rw [hok]
      exact ⟨iff_of_false (by simp) hrows, iff_of_false (by simp) (fun h => hvoid h.2),
        iff_of_true ⟨_, rfl, hholds.covers⟩ hvoid, rfl, rfl, hrow⟩

end Report

end Screening
