/-
The rows of a range at their places.

A range is a list of rows that starts at some row and column of the sheet. Growing fills it up with
empty values, which is what stands beyond its end anyway, so only a value that is set changes what a
range holds. Put back to their places the rows hold each value in its row and column of the sheet; a
row that a range has to spare comes out as a row of empty cells below its last one.

* `Range.entry`: the value in a row and a column of a list of rows.
* `Range.Holds`: what a range holds, and how many rows it has to spare.
* `Range.holds_ofSize`, `Range.Holds.set`: a new range, and one with one more value.
* `Range.Placed`, `Range.Holds.placed`: rows at their places, and that a range gives such rows.
-/
import Mathlib.Data.List.GetD
import Screening.Proofs.Conversion
import Screening.Proofs.Results
import Screening.Sheet.Workbook

namespace Screening

/-! ### Entries of lists of rows -/

namespace Range

/-- The value in a row and a column of a list of rows, empty beyond its end. -/
def entry (rows : List (List Value)) (i j : ℕ) : Value :=
  (rows.getD i []).getD j .empty

variable {rows : List (List Value)}

lemma getD_emptyRow (width j : ℕ) : (emptyRow width).getD j .empty = .empty := by
  rw [emptyRow]
  by_cases hj : j < width
  · rw [List.getD_replicate _ hj]
  · rw [List.getD_eq_default _ _ (by simp; omega)]

/-- Empty values behind a row change none of its entries. -/
lemma getD_append_emptyRow (cells : List Value) (width j : ℕ) :
    (cells ++ emptyRow width).getD j .empty = cells.getD j .empty := by
  by_cases hj : j < cells.length
  · rw [List.getD_append _ _ _ _ hj]
  · rw [List.getD_append_right _ _ _ _ (by omega), getD_emptyRow,
      List.getD_eq_default _ _ (by omega)]

/-- Empty rows behind the others change no entry. -/
lemma entry_append_emptyRows (rows : List (List Value)) (count width i j : ℕ) :
    entry (rows ++ List.replicate count (emptyRow width)) i j = entry rows i j := by
  rw [entry, entry]
  by_cases hi : i < rows.length
  · rw [List.getD_append _ _ _ _ hi]
  · rw [List.getD_append_right _ _ _ _ (by omega), List.getD_eq_default rows [] (by omega)]
    by_cases hcount : i - rows.length < count
    · rw [List.getD_replicate _ hcount, getD_emptyRow]
      rfl
    · rw [List.getD_eq_default _ [] (by simp; omega)]

/-- Empty values behind every row change no entry. -/
lemma entry_map_append_emptyRow (rows : List (List Value)) (width i j : ℕ) :
    entry (rows.map (· ++ emptyRow width)) i j = entry rows i j := by
  rw [entry, entry]
  by_cases hi : i < rows.length
  · rw [List.getD_eq_getElem _ [] (by simpa using hi), List.getD_eq_getElem _ [] hi,
      List.getElem_map, getD_append_emptyRow]
  · rw [List.getD_eq_default _ [] (by simpa using hi), List.getD_eq_default _ [] (by omega)]

/-- One entry is set, and the others stay. -/
lemma entry_modify_set {i j : ℕ} (hi : i < rows.length) (hj : j < rows[i].length) (value : Value)
    (i' j' : ℕ) :
    entry (rows.modify i (·.set j value)) i' j' =
      if i' = i ∧ j' = j then value else entry rows i' j' := by
  rw [entry, entry]
  by_cases hi' : i' = i
  · subst hi'
    rw [List.getD_eq_getElem _ [] (by simpa using hi), List.getD_eq_getElem _ [] hi,
      List.getElem_modify_eq]
    by_cases hj' : j' = j
    · subst hj'
      rw [if_pos ⟨rfl, rfl⟩, List.getD_eq_getElem _ _ (by simpa using hj), List.getElem_set_self]
    · rw [if_neg fun h => hj' h.2, List.getD_eq_getElem?_getD, List.getElem?_set_ne (Ne.symm hj'),
        ← List.getD_eq_getElem?_getD]
  · rw [if_neg fun h => hi' h.1]
    simp only [List.getD_eq_getElem?_getD, List.getElem?_modify, if_neg (Ne.symm hi'), id_map']

/-! ### What a range holds -/

/-- A range holds the values that a function gives for the rows and columns of the sheet, none of
them outside its corners, and has some rows to spare. -/
structure Holds (r : Range) (values : ℕ → ℕ → Value) (spare : ℕ) : Prop where
  vertical : r.top ≤ r.bottom
  horizontal : r.left ≤ r.right
  count : r.rows.length = r.height + spare
  wide : ∀ cells ∈ r.rows, cells.length = r.width
  entry_eq : ∀ i j, entry r.rows i j = values (r.top + i) (r.left + j)
  inside : ∀ row column, values row column ≠ .empty →
    r.top ≤ row ∧ row ≤ r.bottom ∧ r.left ≤ column ∧ column ≤ r.right

variable {r : Range} {values : ℕ → ℕ → Value} {spare : ℕ}

/-- A new range holds nothing. -/
lemma holds_ofSize {top left bottom right : ℕ} (hv : top ≤ bottom) (hh : left ≤ right) :
    (ofSize top left bottom right).Holds (fun _ _ => .empty) 0 where
  vertical := hv
  horizontal := hh
  count := List.length_replicate
  wide cells hcells := by
    rw [List.eq_of_mem_replicate hcells]
    exact List.length_replicate
  entry_eq i j := by
    have hentry := entry_append_emptyRows [] (bottom - top + 1) (right - left + 1) i j
    rwa [List.nil_append] at hentry
  inside _ _ h := absurd rfl h

/-- Growing down alone gives one row more than the new last row needs. -/
lemma Holds.growDown (h : r.Holds values spare) {row : ℕ} (hrow : r.bottom < row) :
    (r.growDown row).Holds values (spare + 1) where
  vertical := h.vertical.trans hrow.le
  horizontal := h.horizontal
  count := by
    have hcount := h.count
    have hvertical := h.vertical
    simp only [Range.growDown, height, List.length_append, List.length_replicate] at hcount ⊢
    omega
  wide cells hcells := by
    rcases List.mem_append.1 hcells with hcells | hcells
    · exact h.wide cells hcells
    · rw [List.eq_of_mem_replicate hcells]
      exact List.length_replicate
  entry_eq i j := (entry_append_emptyRows _ _ _ i j).trans (h.entry_eq i j)
  inside row' column hvalue := by
    obtain ⟨htop, hbottom, hleft, hright⟩ := h.inside row' column hvalue
    exact ⟨htop, hbottom.trans hrow.le, hleft, hright⟩

/-- Growing to the right, and down with it, leaves the spare rows as many as they were. -/
lemma Holds.growRight (h : r.Holds values spare) (row : ℕ) {column : ℕ}
    (hcolumn : r.right < column) :
    (r.growRight row column).Holds values spare where
  vertical := h.vertical.trans (le_max_left _ _)
  horizontal := h.horizontal.trans hcolumn.le
  count := by
    have hcount := h.count
    have hvertical := h.vertical
    simp only [Range.growRight, height, List.length_append, List.length_replicate,
      List.length_map] at hcount ⊢
    omega
  wide cells hcells := by
    have hwidth : r.width ≤ column - r.left + 1 := by
      rw [width]
      omega
    rcases List.mem_append.1 hcells with hcells | hcells
    · obtain ⟨narrow, hnarrow, rfl⟩ := List.mem_map.1 hcells
      rw [List.length_append, h.wide narrow hnarrow]
      simp only [emptyRow, List.length_replicate, width, Range.growRight] at hwidth ⊢
      omega
    · rw [List.eq_of_mem_replicate hcells]
      exact List.length_replicate
  entry_eq i j := by
    have hentry := entry_append_emptyRows
      (r.rows.map (· ++ emptyRow (column - r.left + 1 - r.width))) (row - r.bottom)
      (column - r.left + 1) i j
    rw [entry_map_append_emptyRow] at hentry
    exact hentry.trans (h.entry_eq i j)
  inside row' column' hvalue := by
    obtain ⟨htop, hbottom, hleft, hright⟩ := h.inside row' column' hvalue
    exact ⟨htop, hbottom.trans (le_max_left _ _), hleft, hright.trans hcolumn.le⟩

/-- The number of spare rows once a value is set in a row and a column. -/
def spareAfter (r : Range) (row column spare : ℕ) : ℕ :=
  if r.bottom < row ∧ column ≤ r.right then spare + 1 else spare

/-- A range that has grown to a position has it between its corners, and holds what it held. -/
lemma Holds.growTo (h : r.Holds values spare) (row column : ℕ) :
    (r.growTo row column).Holds values (r.spareAfter row column spare) ∧
      row ≤ (r.growTo row column).bottom ∧ column ≤ (r.growTo row column).right ∧
      (r.growTo row column).top = r.top ∧ (r.growTo row column).left = r.left := by
  rw [Range.growTo, spareAfter]
  by_cases hcolumn : r.right < column
  · rw [if_pos hcolumn, if_neg (by omega)]
    exact ⟨h.growRight row hcolumn, le_max_right _ _, le_rfl, rfl, rfl⟩
  · rw [if_neg hcolumn]
    by_cases hrow : r.bottom < row
    · rw [if_pos hrow, if_pos ⟨hrow, by omega⟩]
      exact ⟨h.growDown hrow, le_rfl, by exact Nat.not_lt.1 hcolumn, rfl, rfl⟩
    · rw [if_neg hrow, if_neg (by omega)]
      exact ⟨h, Nat.not_lt.1 hrow, Nat.not_lt.1 hcolumn, rfl, rfl⟩

/-- A place between the corners is one of the rows and columns of a range. -/
lemma Holds.exists_index (h : r.Holds values spare) {row column : ℕ} (htop : r.top ≤ row)
    (hbottom : row ≤ r.bottom) (hleft : r.left ≤ column) (hright : column ≤ r.right) :
    ∃ hi : row - r.top < r.rows.length, column - r.left < r.rows[row - r.top].length := by
  have hcount := h.count
  rw [height] at hcount
  have hi : row - r.top < r.rows.length := by omega
  refine ⟨hi, ?_⟩
  rw [h.wide _ (List.getElem_mem hi), width]
  omega

/-- A value that is set between the corners is held at its place, and the others stay. -/
lemma Holds.modify (h : r.Holds values spare) {row column : ℕ} (htop : r.top ≤ row)
    (hbottom : row ≤ r.bottom) (hleft : r.left ≤ column) (hright : column ≤ r.right)
    (value : Value) :
    Holds { r with rows := r.rows.modify (row - r.top) (·.set (column - r.left) value) }
      (fun row' column' => if row' = row ∧ column' = column then value else values row' column')
      spare where
  vertical := h.vertical
  horizontal := h.horizontal
  count := (List.length_modify _ _ _).trans h.count
  wide cells hcells := by
    obtain ⟨i, hi, rfl⟩ := List.getElem_of_mem hcells
    rw [List.length_modify] at hi
    have hwide := h.wide _ (List.getElem_mem hi)
    simp only [List.getElem_modify]
    split
    · rw [List.length_set]
      exact hwide
    · exact hwide
  entry_eq i j := by
    obtain ⟨hi, hj⟩ := h.exists_index htop hbottom hleft hright
    refine (entry_modify_set hi hj value i j).trans ?_
    rw [h.entry_eq]
    have hplace : i = row - r.top ∧ j = column - r.left ↔
        r.top + i = row ∧ r.left + j = column := by
      omega
    simp only [hplace]
  inside row' column' hvalue := by
    by_cases hplace : row' = row ∧ column' = column
    · obtain ⟨rfl, rfl⟩ := hplace
      exact ⟨htop, hbottom, hleft, hright⟩
    · rw [if_neg hplace] at hvalue
      exact h.inside row' column' hvalue

/-- A value that is set is held at its place, and the others stay. -/
lemma Holds.set (h : r.Holds values spare) {row column : ℕ} (hrow : r.top ≤ row)
    (hcolumn : r.left ≤ column) (value : Value) :
    (r.set row column value).Holds
      (fun row' column' => if row' = row ∧ column' = column then value else values row' column')
      (r.spareAfter row column spare) := by
  obtain ⟨hgrown, hbottom, hright, htop, hleft⟩ := h.growTo row column
  rw [Range.set, if_neg (by omega), ← htop, ← hleft]
  exact hgrown.modify (htop.trans_le hrow) hbottom (hleft.trans_le hcolumn) hright value

/-! ### Rows at their places -/

/-- Rows are placed as a range says if they go down to its last row and its spare ones, those above
the range have no cells, the others reach to its last column, each cell is the one of the value
there, no other place has a value, and the spare rows are empty. -/
structure Placed (r : Range) (values : ℕ → ℕ → Value) (spare : ℕ) (rows : List Row) : Prop where
  count : rows.length = r.bottom + 1 + spare
  above : ∀ row (hrow : row < rows.length), row < r.top → rows[row] = []
  wide : ∀ row (hrow : row < rows.length), r.top ≤ row → rows[row].length = r.right + 1
  cell : ∀ row (hrow : row < rows.length) column (hcolumn : column < rows[row].length),
    (values row column).toCell = .ok rows[row][column]
  beyond : ∀ row column, values row column ≠ .empty →
    ∃ hrow : row < rows.length, column < rows[row].length
  spare_empty : ∀ row (hrow : row < rows.length), r.bottom < row →
    ∀ cell ∈ rows[row], cell = .empty

/-- The cells of values that all have one, behind the empty cells to their left. -/
lemma placeRow_eq_ok {cells : List Value} (left : ℕ) (h : ∀ value ∈ cells, ¬value.IsFarBelow) :
    placeRow left cells = .ok (List.replicate left .empty ++ cells.map Value.cell) := by
  rw [placeRow, mapM_eq_ok fun value hvalue => Value.toCell_eq_ok (h value hvalue)]
  rfl

/-- The rows of a range at their places, each value as its cell. -/
def cellRows (r : Range) : List Row :=
  List.replicate r.top [] ++
    r.rows.map fun cells => List.replicate r.left .empty ++ cells.map Value.cell

lemma toRows_eq_ok (h : ∀ cells ∈ r.rows, ∀ value ∈ cells, ¬value.IsFarBelow) :
    r.toRows = .ok r.cellRows := by
  rw [toRows, mapM_eq_ok fun cells hcells => placeRow_eq_ok r.left (h cells hcells)]
  rfl

/-- The values of the rows are values that the range holds. -/
lemma Holds.getElem_eq (h : r.Holds values spare) {i j : ℕ} (hi : i < r.rows.length)
    (hj : j < r.rows[i].length) : r.rows[i][j] = values (r.top + i) (r.left + j) := by
  rw [← h.entry_eq, entry, List.getD_eq_getElem _ [] hi, List.getD_eq_getElem _ _ hj]

/-- Outside the corners nothing is held. -/
lemma Holds.eq_empty (h : r.Holds values spare) {row column : ℕ}
    (hplace : ¬(r.top ≤ row ∧ row ≤ r.bottom ∧ r.left ≤ column ∧ column ≤ r.right)) :
    values row column = .empty := by
  by_contra hvalue
  exact hplace (h.inside row column hvalue)

lemma Holds.length_cellRows (h : r.Holds values spare) :
    r.cellRows.length = r.bottom + 1 + spare := by
  have hvertical := h.vertical
  have hcount := h.count
  rw [height] at hcount
  rw [cellRows, List.length_append, List.length_replicate, List.length_map]
  omega

lemma getElem_cellRows_above {row : ℕ} (hrow : row < r.cellRows.length) (htop : row < r.top) :
    r.cellRows[row] = [] := by
  simp only [cellRows]
  rw [List.getElem_append_left (by simpa using htop), List.getElem_replicate]

lemma getElem_cellRows_of_le {row : ℕ} (hrow : row < r.cellRows.length) (htop : r.top ≤ row) :
    ∃ hi : row - r.top < r.rows.length,
      r.cellRows[row] = List.replicate r.left .empty ++ r.rows[row - r.top].map Value.cell := by
  have hi : row - r.top < r.rows.length := by
    rw [cellRows, List.length_append, List.length_replicate, List.length_map] at hrow
    omega
  refine ⟨hi, ?_⟩
  simp only [cellRows]
  rw [List.getElem_append_right (by simpa using htop), List.getElem_map]
  simp only [List.length_replicate]

lemma Holds.length_getElem_cellRows (h : r.Holds values spare) {row : ℕ}
    (hrow : row < r.cellRows.length) (htop : r.top ≤ row) :
    r.cellRows[row].length = r.right + 1 := by
  have hhorizontal := h.horizontal
  obtain ⟨hi, hcells⟩ := getElem_cellRows_of_le hrow htop
  rw [hcells, List.length_append, List.length_replicate, List.length_map,
    h.wide _ (List.getElem_mem hi), width]
  omega

/-- Each cell is the one of the value at its place. -/
lemma Holds.toCell_eq_getElem (h : r.Holds values spare)
    (hcells : ∀ row column, ¬(values row column).IsFarBelow) (row : ℕ)
    (hrow : row < r.cellRows.length) (column : ℕ) (hcolumn : column < r.cellRows[row].length) :
    (values row column).toCell = .ok r.cellRows[row][column] := by
  revert hcolumn
  rcases Nat.lt_or_ge row r.top with htop | htop
  · rw [getElem_cellRows_above hrow htop]
    exact nofun
  · obtain ⟨hi, hrow'⟩ := getElem_cellRows_of_le hrow htop
    rw [hrow']
    intro hcolumn
    rcases Nat.lt_or_ge column r.left with hleft | hleft
    · rw [List.getElem_append_left (by simpa using hleft), List.getElem_replicate,
        h.eq_empty (by omega)]
      rfl
    · rw [List.getElem_append_right (by simpa using hleft), List.getElem_map, h.getElem_eq,
        List.length_replicate, Nat.add_sub_cancel' htop, Nat.add_sub_cancel' hleft]
      exact Value.toCell_eq_ok (hcells row column)

/-- The rows of a range are placed as it says. -/
lemma Holds.placed (h : r.Holds values spare)
    (hcells : ∀ row column, ¬(values row column).IsFarBelow) :
    ∃ rows, r.toRows = .ok rows ∧ r.Placed values spare rows := by
  have hfar : ∀ cells ∈ r.rows, ∀ value ∈ cells, ¬value.IsFarBelow := by
    intro cells hmem value hvalue
    obtain ⟨i, hi, rfl⟩ := List.getElem_of_mem hmem
    obtain ⟨j, hj, rfl⟩ := List.getElem_of_mem hvalue
    rw [h.getElem_eq]
    exact hcells _ _
  refine ⟨r.cellRows, toRows_eq_ok hfar, h.length_cellRows, fun _ => getElem_cellRows_above,
    fun _ => h.length_getElem_cellRows, h.toCell_eq_getElem hcells, ?_, ?_⟩
  · intro row column hvalue
    obtain ⟨htop, hbottom, -, hright⟩ := h.inside row column hvalue
    have hcount := h.length_cellRows
    refine ⟨by omega, ?_⟩
    rw [h.length_getElem_cellRows _ htop]
    omega
  · intro row hrow hbottom cell hmem
    obtain ⟨column, hcolumn, rfl⟩ := List.getElem_of_mem hmem
    have hempty := h.toCell_eq_getElem hcells row hrow column hcolumn
    rw [h.eq_empty (by omega)] at hempty
    exact (Except.ok.inj hempty).symm

/-- A value that a range holds is in one of its rows. -/
lemma Holds.exists_mem (h : r.Holds values spare) {row column : ℕ}
    (hvalue : values row column ≠ .empty) : ∃ cells ∈ r.rows, values row column ∈ cells := by
  obtain ⟨htop, hbottom, hleft, hright⟩ := h.inside row column hvalue
  obtain ⟨hi, hj⟩ := h.exists_index htop hbottom hleft hright
  have hentry := h.getElem_eq hi hj
  rw [Nat.add_sub_cancel' htop, Nat.add_sub_cancel' hleft] at hentry
  exact ⟨_, List.getElem_mem hi, hentry ▸ List.getElem_mem hj⟩

/-- One value without a cell is enough, and a range has no rows. -/
lemma Holds.toRows_eq_error (h : r.Holds values spare)
    (hfar : ∃ row column, (values row column).IsFarBelow) : r.toRows = .error .belowRange := by
  obtain ⟨row, column, hfar⟩ := hfar
  have hvalue : values row column ≠ .empty := by
    intro hempty
    rw [hempty] at hfar
    exact hfar
  obtain ⟨cells, hcells, hmem⟩ := h.exists_mem hvalue
  have hplace : placeRow r.left cells = .error .belowRange := by
    rw [placeRow, mapM_eq_error ⟨_, hmem, Value.toCell_eq_error_iff.2 hfar⟩]
    rfl
  rw [toRows, mapM_eq_error ⟨cells, hcells, hplace⟩]
  rfl

end Range

end Screening
