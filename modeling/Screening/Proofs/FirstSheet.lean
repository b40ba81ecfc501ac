/-
The report of the first sheet.

A workbook in a file is read as the rows of its first sheet, each at its place, so its report is
that of the sheet from the first row and column on: the rows above the values are blank, and below
the last value there is no row. Other sheets do not matter. Only a serial number too far below zero
stands in the way of a report; wherever in the sheet it is, the reading ends there.

* `Sheet.grid`: a sheet from its first row and column on.
* `Range.Placed.assemble_eq`, `Range.Placed.top_le_skipped`: the report of placed rows.
* `Disk.report_of_places`: the report of a workbook in a file.
* `Disk.exists_report_iff_no_far_below`: when there is a report at all.
-/
import Screening.Proofs.Assembly
import Screening.Proofs.Extent
import Screening.Report.Input

namespace Screening

/-! ### The report of placed rows -/

variable {sheet : Sheet} {top left bottom right : ℕ} {criteria : Criteria} {rows : List Row}

/-- The cells of a sheet from its first row and column down to a row and over to a column. -/
def Sheet.grid (sheet : Sheet) (bottom right : ℕ) : List Row :=
  (List.range (bottom + 1)).map fun row =>
    (List.range (right + 1)).map fun column => (sheet.valueAt row column).cell

lemma Value.cell_eq_of_toCell {value : Value} {cell : Cell} (h : value.toCell = .ok cell) :
    value.cell = cell := by
  rw [Value.cell, h]
  rfl

/-- A row above the values is blank. -/
lemma Sheet.Box.isVoid_above (h : sheet.Box top left bottom right) {row : ℕ} (hrow : row < top) :
    Row.IsVoid ((List.range (right + 1)).map fun column => (sheet.valueAt row column).cell) := by
  intro cell hcell
  obtain ⟨column, -, rfl⟩ := List.mem_map.1 hcell
  have hnone : sheet.valueAt row column = .empty := by
    by_contra hvalue
    exact absurd (h.inside row column hvalue).1 (Nat.not_le.2 hrow)
  rw [hnone]
  exact .inl rfl

namespace Range.Placed

/-- From its top on, placed rows are the rows of the sheet. -/
lemma getElem_eq (h : (sheet.range top left bottom right).Placed sheet.valueAt 0 rows) {row : ℕ}
    (hrow : row < rows.length) (htop : top ≤ row) :
    rows[row] = (List.range (right + 1)).map fun column => (sheet.valueAt row column).cell := by
  have hwide : rows[row].length = right + 1 := h.wide row hrow htop
  refine List.ext_getElem (by simp [hwide]) fun column hcolumn hcolumn' => ?_
  rw [List.getElem_map, List.getElem_range]
  exact (Value.cell_eq_of_toCell (h.cell row hrow column hcolumn)).symm

/-- Placed rows are assembled as the sheet is; the rows above the values may have cells or not. -/
lemma assemble_eq (h : (sheet.range top left bottom right).Placed sheet.valueAt 0 rows)
    (hbox : sheet.Box top left bottom right) :
    Report.assemble rows criteria = Report.assemble (sheet.grid bottom right) criteria := by
  refine Report.assemble_congr ?_
  have hcount : rows.length = bottom + 1 := h.count
  refine List.ext_getElem (by simp [hcount, Sheet.grid]) fun row hrow hrow' => ?_
  rw [List.length_map] at hrow
  simp only [Sheet.grid, List.getElem_map, List.getElem_range]
  by_cases htop : row < top
  · have hempty : rows[row] = [] := h.above row hrow htop
    rw [hempty, Line.ofRow?_eq_none_iff_isVoid.2 (hbox.isVoid_above htop)]
    rfl
  · rw [h.getElem_eq hrow (Nat.not_lt.1 htop)]

/-- The rows above the values are counted as blank. -/
lemma top_le_skipped (h : (sheet.range top left bottom right).Placed sheet.valueAt 0 rows)
    (hbox : sheet.Box top left bottom right) {report : Report}
    (hcovers : report.Covers rows criteria) :
    report.lines.length + report.skipped = bottom + 1 ∧ top ≤ report.skipped := by
  have hcount : rows.length = bottom + 1 := h.count
  have hvertical := hbox.vertical
  have htake : (rows.take top).filterMap (Line.ofRow? · criteria) = [] := by
    refine List.filterMap_eq_nil_iff.2 fun row hrow => ?_
    obtain ⟨i, hi, rfl⟩ := List.getElem_of_mem hrow
    rw [List.length_take] at hi
    have hempty : rows[i] = [] := h.above i (by omega) (Nat.lt_of_lt_of_le hi (Nat.min_le_left _ _))
    rw [List.getElem_take, hempty]
    rfl
  have hlines : report.lines.length ≤ bottom + 1 - top := by
    calc report.lines.length
        = ((rows.take top ++ rows.drop top).filterMap (Line.ofRow? · criteria)).length := by
          rw [List.take_append_drop, hcovers.lines]
      _ = ((rows.drop top).filterMap (Line.ofRow? · criteria)).length := by
          rw [List.filterMap_append, htake, List.nil_append]
      _ ≤ (rows.drop top).length := List.length_filterMap_le _ _
      _ = bottom + 1 - top := by rw [List.length_drop, hcount]
  have htotal := hcovers.count
  omega

end Range.Placed

/-! ### The first sheet of a workbook in a file -/

/-- The values of a sheet have a cell if those that it keeps do. -/
lemma Sheet.not_isFarBelow (h : ∀ cell ∈ sheet.cells, ¬cell.2.IsFarBelow) (row column : ℕ) :
    ¬(sheet.valueAt row column).IsFarBelow := by
  rw [valueAt]
  split
  next place value hfind => exact h _ (List.mem_of_find?_eq_some hfind)
  next => exact id

/-- A value without a text: its cell is empty, or holds white space only. -/
def Value.IsVoid (value : Value) : Prop :=
  ∃ cell, value.toCell = .ok cell ∧ cell.IsVoid

lemma Value.not_isVoid {value : Value} {cell : Cell} (h : value.toCell = .ok cell)
    (hcell : cell.isBlank = false) : ¬value.IsVoid := by
  rintro ⟨cell', hcell', hvoid⟩
  rw [h] at hcell'
  cases hcell'
  rw [Cell.isBlank_iff_isVoid.2 hvoid] at hcell
  cases hcell

/-- A value with a text is there. -/
lemma Value.ne_empty_of_not_isVoid {value : Value} (h : ¬value.IsVoid) : value ≠ .empty := by
  rintro rfl
  exact h ⟨.empty, rfl, .inl rfl⟩

/-- Placed rows have a row that is not blank if a value has a text. -/
lemma Range.Placed.exists_not_isVoid {r : Range} {values : ℕ → ℕ → Value} {spare : ℕ}
    (h : r.Placed values spare rows) (hvalue : ∃ row column, ¬(values row column).IsVoid) :
    ¬∀ row ∈ rows, row.IsVoid := by
  obtain ⟨row, column, hvalue⟩ := hvalue
  obtain ⟨hrow, hcolumn⟩ := h.beyond row column (Value.ne_empty_of_not_isVoid hvalue)
  intro hvoid
  exact hvalue ⟨_, h.cell row hrow column hcolumn,
    hvoid _ (List.getElem_mem hrow) _ (List.getElem_mem hcolumn)⟩

namespace Disk

variable {disk : Disk} {p : Path} {others : List Sheet}

lemma firstRows_of_workbook {workbook : Workbook} (h : disk.workbook p = .ok workbook) :
    disk.firstRows p = workbook.firstRows := by
  rw [firstRows, h]
  rfl

/-- A first sheet without values has no rows. -/
lemma firstRows_of_no_value (hworkbook : disk.workbook p = .ok ⟨sheet :: others⟩)
    (h : ∀ row column, sheet.valueAt row column = .empty) :
    disk.firstRows p = .error (.input (.emptySheet sheet.name)) := by
  rw [firstRows_of_workbook hworkbook, Workbook.firstRows]
  dsimp only
  rw [Sheet.usedRange?_eq_none h]

/-- The rows of a first sheet are those of the smallest rectangle around its values. -/
lemma firstRows_of_box (hworkbook : disk.workbook p = .ok ⟨sheet :: others⟩)
    (hbox : sheet.Box top left bottom right) :
    disk.firstRows p =
      ((sheet.range top left bottom right).toRows.mapError .serial).map (⟨sheet.name, ·⟩) := by
  rw [firstRows_of_workbook hworkbook, Workbook.firstRows]
  dsimp only
  rw [hbox.usedRange?_eq]

/-- Values that all have a cell are read as rows at their places. -/
lemma exists_firstRows (hworkbook : disk.workbook p = .ok ⟨sheet :: others⟩)
    (hbox : sheet.Box top left bottom right)
    (hcells : ∀ row column, ¬(sheet.valueAt row column).IsFarBelow) :
    ∃ rows, disk.firstRows p = .ok ⟨sheet.name, rows⟩ ∧
      (sheet.range top left bottom right).Placed sheet.valueAt 0 rows := by
  obtain ⟨rows, hrows, hplaced⟩ := hbox.holds_range.placed hcells
  refine ⟨rows, ?_, hplaced⟩
  rw [firstRows_of_box hworkbook hbox, hrows]
  rfl

lemma report_of_firstRows {read : SheetRows} (h : disk.firstRows p = .ok read) :
    disk.report p criteria = (Report.assemble read.rows criteria).mapError .input := by
  rw [report, h]
  rfl

lemma report_of_firstRows_error {e : Error} (h : disk.firstRows p = .error e) :
    disk.report p criteria = .error e := by
  rw [report, h]
  rfl

/-- The report of a first sheet with values is that of the sheet at its places. -/
lemma exists_report_of_value (hworkbook : disk.workbook p = .ok ⟨sheet :: others⟩)
    (hcells : ∀ row column, ¬(sheet.valueAt row column).IsFarBelow)
    (hvalue : ∃ row column, sheet.valueAt row column ≠ .empty) (criteria : Criteria) :
    ∃ top left bottom right rows, sheet.Box top left bottom right ∧
      disk.firstRows p = .ok ⟨sheet.name, rows⟩ ∧
      (sheet.range top left bottom right).Placed sheet.valueAt 0 rows ∧
      disk.report p criteria =
        (Report.assemble (sheet.grid bottom right) criteria).mapError .input ∧
      ∀ report, disk.report p criteria = .ok report →
        report.lines.length + report.skipped = bottom + 1 ∧ top ≤ report.skipped := by
  obtain ⟨top, left, bottom, right, hbox⟩ := Sheet.exists_box hvalue
  obtain ⟨rows, hread, hplaced⟩ := exists_firstRows hworkbook hbox hcells
  have hreport : disk.report p criteria = (Report.assemble rows criteria).mapError .input :=
    report_of_firstRows hread
  refine ⟨top, left, bottom, right, rows, hbox, hread, hplaced, ?_, fun report hok => ?_⟩
  · rw [hreport, hplaced.assemble_eq hbox]
  · rw [hreport] at hok
    cases hassemble : Report.assemble rows criteria with
    | error e =>
      rw [hassemble] at hok
      cases hok
    | ok report' =>
      rw [hassemble] at hok
      cases hok
      exact hplaced.top_le_skipped hbox (Report.covers_of_assemble hassemble)

/-- **The first sheet at its places.** Of every range, however it was made, the rows come out at
their places, unless a value has no cell. A workbook in a file is read as the smallest rectangle
around the values of its first sheet, with no row to spare, and its report is that of the sheet from
the first row and column on; the rows above the values count as blank, and no others are added. A
first sheet without values is an error that names it. -/
theorem report_of_places (criteria : Criteria) :
    (∀ r values spare, Range.Made r values spare →
      (∀ row column, ¬(values row column).IsFarBelow) →
      ∃ rows, r.toRows = .ok rows ∧ r.Placed values spare rows) ∧
    ∀ disk p sheet others, Disk.workbook disk p = .ok ⟨sheet :: others⟩ →
      (∀ row column, ¬(sheet.valueAt row column).IsFarBelow) →
      ((∃ row column, sheet.valueAt row column ≠ .empty) →
        ∃ top left bottom right rows, sheet.Box top left bottom right ∧
          disk.firstRows p = .ok ⟨sheet.name, rows⟩ ∧
          (sheet.range top left bottom right).Placed sheet.valueAt 0 rows ∧
          disk.report p criteria =
            (Report.assemble (sheet.grid bottom right) criteria).mapError .input ∧
          ∀ report, disk.report p criteria = .ok report →
            report.lines.length + report.skipped = bottom + 1 ∧ top ≤ report.skipped) ∧
      ((∀ row column, sheet.valueAt row column = .empty) →
        disk.report p criteria = .error (.input (.emptySheet sheet.name)) ∧
        (InputError.emptySheet sheet.name).reason = "sheet '" ++ sheet.name ++ "' has no rows") := by
  refine ⟨fun r values spare hmade => hmade.exists_placed, ?_⟩
  intro disk p sheet others hworkbook hcells
  refine ⟨fun hvalue => exists_report_of_value hworkbook hcells hvalue criteria, fun hnone => ?_⟩
  exact ⟨report_of_firstRows_error (firstRows_of_no_value hworkbook hnone), rfl⟩

/-- A sheet whose values start in its second row: a name and a day. -/
def offsetSheet : Sheet :=
  .ofCells "In" [(.ofIndices 1 8, .text "Acme"), (.ofIndices 3 9, .dateTime ⟨.ofNat 45000, false⟩)]

/-- Another sheet. -/
def otherSheet : Sheet :=
  .ofCells "Other" [(.ofIndices 0 0, .text "x")]

/-- A file with a workbook of two sheets. The values of the first start in its second row. -/
def twoSheets : Disk where
  nodes := [([Utf8.ofString "in.xlsx"], .file (.workbook ⟨[offsetSheet, otherSheet]⟩))]
  current := []

/-- The report of the two sheets is that of the first one at its places. -/
theorem report_of_places_two_sheets :
    twoSheets.workbook (.ofString "/in.xlsx") = .ok ⟨[offsetSheet, otherSheet]⟩ ∧
      (∀ row column, ¬(offsetSheet.valueAt row column).IsFarBelow) ∧
      ∃ top left bottom right rows, offsetSheet.Box top left bottom right ∧
        twoSheets.firstRows (.ofString "/in.xlsx") = .ok ⟨"In", rows⟩ ∧
        (offsetSheet.range top left bottom right).Placed offsetSheet.valueAt 0 rows := by
  have hworkbook : twoSheets.workbook (.ofString "/in.xlsx") =
      .ok ⟨[offsetSheet, otherSheet]⟩ := by decide +kernel
  have hcells := Sheet.not_isFarBelow
    (by decide +kernel : ∀ cell ∈ offsetSheet.cells, ¬cell.2.IsFarBelow)
  obtain ⟨-, hsheets⟩ := report_of_places .empty
  obtain ⟨hplaces, -⟩ := hsheets _ _ _ _ hworkbook hcells
  obtain ⟨top, left, bottom, right, rows, hbox, hread, hplaced, -⟩ := hplaces ⟨1, 8, by decide⟩
  exact ⟨hworkbook, hcells, top, left, bottom, right, rows, hbox, hread, hplaced⟩

/-! ### When there is a report -/

/-- **When there is a report.** A value has a cell unless it is a serial number too far below zero.
So a workbook with a text in its first sheet has a report unless such a serial number is somewhere
in that sheet, and then the reading ends with the fault. -/
theorem exists_report_iff_no_far_below (hworkbook : disk.workbook p = .ok ⟨sheet :: others⟩)
    (hvalue : ∃ row column, ¬(sheet.valueAt row column).IsVoid) (criteria : Criteria) :
    (∀ value : Value, (∃ cell, value.toCell = .ok cell) ↔ ¬value.IsFarBelow) ∧
    ((∃ report, disk.report p criteria = .ok report) ↔
      ∀ row column, ¬(sheet.valueAt row column).IsFarBelow) ∧
    ((∃ row column, (sheet.valueAt row column).IsFarBelow) →
      disk.report p criteria = .error (.serial .belowRange)) := by
  have hne : ∃ row column, sheet.valueAt row column ≠ .empty :=
    hvalue.imp fun _ => Exists.imp fun _ => Value.ne_empty_of_not_isVoid
  obtain ⟨top, left, bottom, right, hbox⟩ := Sheet.exists_box hne
  have herror : (∃ row column, (sheet.valueAt row column).IsFarBelow) →
      disk.report p criteria = .error (.serial .belowRange) := by
    intro hfar
    refine report_of_firstRows_error ?_
    rw [firstRows_of_box hworkbook hbox, hbox.holds_range.toRows_eq_error hfar]
    rfl
  refine ⟨fun value => Value.exists_toCell_iff, ⟨?_, fun hcells => ?_⟩, herror⟩
  · rintro ⟨report, hreport⟩ row column hfar
    rw [herror ⟨row, column, hfar⟩] at hreport
    cases hreport
  · obtain ⟨rows, hread, hplaced⟩ := exists_firstRows hworkbook hbox hcells
    obtain ⟨report, hreport⟩ := Report.exists_assemble (hplaced.exists_not_isVoid hvalue)
    refine ⟨report, ?_⟩
    rw [report_of_firstRows hread, hreport]
    rfl

/-- The two sheets have a report. -/
theorem exists_report_two_sheets :
    twoSheets.workbook (.ofString "/in.xlsx") = .ok ⟨[offsetSheet, otherSheet]⟩ ∧
      (∃ row column, ¬(offsetSheet.valueAt row column).IsVoid) ∧
      ∃ report, twoSheets.report (.ofString "/in.xlsx") .empty = .ok report := by
  have hworkbook : twoSheets.workbook (.ofString "/in.xlsx") =
      .ok ⟨[offsetSheet, otherSheet]⟩ := by decide +kernel
  have hcell : (offsetSheet.valueAt 1 8).toCell = .ok (.text "Acme") := by decide +kernel
  have hvalue : ∃ row column, ¬(offsetSheet.valueAt row column).IsVoid :=
    ⟨1, 8, Value.not_isVoid hcell (by decide)⟩
  have hcells := Sheet.not_isFarBelow
    (by decide +kernel : ∀ cell ∈ offsetSheet.cells, ¬cell.2.IsFarBelow)
  obtain ⟨-, hreport, -⟩ := exists_report_iff_no_far_below hworkbook hvalue .empty
  exact ⟨hworkbook, hvalue, hreport.2 hcells⟩

/-- A sheet with a name, and beside it a serial number so far below zero that its span is out of
range. -/
def farSheet : Sheet :=
  .ofCells "In"
    [(.ofIndices 0 8, .text "Acme"), (.ofIndices 0 9, .dateTime ⟨⟨0xC26D1A94A2000000⟩, false⟩)]

/-- The serial number has no cell, and the name no report. -/
theorem no_report_beside_far_below :
    ¬(∃ cell, Value.toCell (.dateTime ⟨⟨0xC26D1A94A2000000⟩, false⟩) = .ok cell) ∧
      (farSheet.valueAt 0 8).toCell = .ok (.text "Acme") ∧
      Disk.report ⟨[([Utf8.ofString "in.xlsx"], .file (.workbook ⟨[farSheet]⟩))], []⟩
        (.ofString "/in.xlsx") .empty = .error (.serial .belowRange) := by
  refine ⟨?_, by decide +kernel, by decide +kernel⟩
  rw [Value.exists_toCell_iff, not_not]
  decide +kernel

end Disk

end Screening
