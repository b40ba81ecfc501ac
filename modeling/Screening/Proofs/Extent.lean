/-
What is in use of a sheet.

The values of a sheet, if it has any, lie in a smallest rectangle: none of them is outside, and each
side has one. That is the range which a sheet hands over, and it holds what the sheet has at every
place, with no row to spare. Ranges are made in this way, or by setting values in a new one.

* `Sheet.Box`: a rectangle is the smallest one.
* `Sheet.exists_box`, `Sheet.Box.usedRange?_eq`, `Sheet.Box.holds_range`: there is one, the sheet
  hands it over, and it holds the values.
* `Range.Made`, `Range.Made.exists_placed`: how ranges are made, and the rows that come out of them.
-/
import Screening.Proofs.Placement

namespace Screening

namespace Sheet

variable {sheet : Sheet} {top left bottom right : ℕ}

/-! ### The smallest rectangle -/

/-- There is a value in a row and a column exactly if a cell is kept there. -/
lemma valueAt_ne_empty_iff {row column : ℕ} :
    sheet.valueAt row column ≠ .empty ↔
      ∃ cell ∈ sheet.cells, cell.1.row.toNat = row ∧ cell.1.column.toNat = column := by
  rw [valueAt]
  split
  next place value hfind =>
    have hcell := List.mem_of_find?_eq_some hfind
    have hplace := List.find?_some hfind
    simp only [Bool.and_eq_true, beq_iff_eq] at hplace
    refine iff_of_true ?_ ⟨_, hcell, hplace⟩
    rintro rfl
    cases sheet.kept _ hcell
  next hfind =>
    rw [List.find?_eq_none] at hfind
    refine iff_of_false (fun h => h rfl) ?_
    rintro ⟨cell, hcell, hrow, hcolumn⟩
    exact hfind cell hcell (by simp [hrow, hcolumn])

/-- The rectangle in use is looked for in the rows and the columns of the cells. -/
lemma usedRange?_eq_bind (sheet : Sheet) :
    sheet.usedRange? =
      (sheet.cells.map (·.1.row.toNat)).min?.bind fun top =>
        (sheet.cells.map (·.1.row.toNat)).max?.bind fun bottom =>
          (sheet.cells.map (·.1.column.toNat)).min?.bind fun left =>
            (sheet.cells.map (·.1.column.toNat)).max?.bind fun right =>
              some (sheet.range top left bottom right) :=
  rfl

/-- The smallest rectangle around the values of a sheet: all of them lie in it, and each of its
sides has one. -/
structure Box (sheet : Sheet) (top left bottom right : ℕ) : Prop where
  inside : ∀ row column, sheet.valueAt row column ≠ .empty →
    top ≤ row ∧ row ≤ bottom ∧ left ≤ column ∧ column ≤ right
  top_used : ∃ column, sheet.valueAt top column ≠ .empty
  left_used : ∃ row, sheet.valueAt row left ≠ .empty
  bottom_used : ∃ column, sheet.valueAt bottom column ≠ .empty
  right_used : ∃ row, sheet.valueAt row right ≠ .empty

/-- A kept cell lies in the smallest rectangle. -/
lemma Box.cell_inside (h : sheet.Box top left bottom right) {cell : Position × Value}
    (hcell : cell ∈ sheet.cells) :
    top ≤ cell.1.row.toNat ∧ cell.1.row.toNat ≤ bottom ∧
      left ≤ cell.1.column.toNat ∧ cell.1.column.toNat ≤ right :=
  h.inside _ _ (valueAt_ne_empty_iff.2 ⟨cell, hcell, rfl, rfl⟩)

lemma Box.vertical (h : sheet.Box top left bottom right) : top ≤ bottom := by
  obtain ⟨column, hvalue⟩ := h.top_used
  obtain ⟨-, hbottom, -, -⟩ := h.inside _ _ hvalue
  exact hbottom

lemma Box.horizontal (h : sheet.Box top left bottom right) : left ≤ right := by
  obtain ⟨row, hvalue⟩ := h.left_used
  obtain ⟨-, -, -, hright⟩ := h.inside _ _ hvalue
  exact hright

/-- The smallest rectangle is the one that a sheet hands over. -/
lemma Box.usedRange?_eq (h : sheet.Box top left bottom right) :
    sheet.usedRange? = some (sheet.range top left bottom right) := by
  obtain ⟨_, htop⟩ := h.top_used
  obtain ⟨_, hleft⟩ := h.left_used
  obtain ⟨_, hbottom⟩ := h.bottom_used
  obtain ⟨_, hright⟩ := h.right_used
  obtain ⟨first, hfirst, hfirst', -⟩ := valueAt_ne_empty_iff.1 htop
  obtain ⟨last, hlast, hlast', -⟩ := valueAt_ne_empty_iff.1 hbottom
  obtain ⟨leftmost, hleftmost, -, hleftmost'⟩ := valueAt_ne_empty_iff.1 hleft
  obtain ⟨rightmost, hrightmost, -, hrightmost'⟩ := valueAt_ne_empty_iff.1 hright
  have hmin : (sheet.cells.map (·.1.row.toNat)).min? = some top := by
    refine List.min?_eq_some_iff.2 ⟨List.mem_map.2 ⟨first, hfirst, hfirst'⟩, ?_⟩
    exact List.forall_mem_map.2 fun cell hcell => (h.cell_inside hcell).1
  have hmax : (sheet.cells.map (·.1.row.toNat)).max? = some bottom := by
    refine List.max?_eq_some_iff.2 ⟨List.mem_map.2 ⟨last, hlast, hlast'⟩, ?_⟩
    exact List.forall_mem_map.2 fun cell hcell => (h.cell_inside hcell).2.1
  have hmin' : (sheet.cells.map (·.1.column.toNat)).min? = some left := by
    refine List.min?_eq_some_iff.2 ⟨List.mem_map.2 ⟨leftmost, hleftmost, hleftmost'⟩, ?_⟩
    exact List.forall_mem_map.2 fun cell hcell => (h.cell_inside hcell).2.2.1
  have hmax' : (sheet.cells.map (·.1.column.toNat)).max? = some right := by
    refine List.max?_eq_some_iff.2 ⟨List.mem_map.2 ⟨rightmost, hrightmost, hrightmost'⟩, ?_⟩
    exact List.forall_mem_map.2 fun cell hcell => (h.cell_inside hcell).2.2.2
  rw [usedRange?_eq_bind, hmin, hmax, hmin', hmax']
  rfl

/-- Numbers that are there at all have a least and a greatest one. -/
lemma exists_min_max {l : List ℕ} (h : l ≠ []) :
    ∃ low ∈ l, ∃ high ∈ l, ∀ n ∈ l, low ≤ n ∧ n ≤ high := by
  obtain ⟨low, hlow⟩ := Option.ne_none_iff_exists'.1 (mt List.min?_eq_none_iff.1 h)
  obtain ⟨high, hhigh⟩ := Option.ne_none_iff_exists'.1 (mt List.max?_eq_none_iff.1 h)
  obtain ⟨hmem, hleast⟩ := List.min?_eq_some_iff.1 hlow
  obtain ⟨hmem', hgreatest⟩ := List.max?_eq_some_iff.1 hhigh
  exact ⟨low, hmem, high, hmem', fun n hn => ⟨hleast n hn, hgreatest n hn⟩⟩

/-- Around the values of a sheet, if it has any, there is a smallest rectangle. -/
lemma exists_box (h : ∃ row column, sheet.valueAt row column ≠ .empty) :
    ∃ top left bottom right, sheet.Box top left bottom right := by
  obtain ⟨row, column, hvalue⟩ := h
  obtain ⟨cell, hcell, -⟩ := valueAt_ne_empty_iff.1 hvalue
  have hcells : sheet.cells ≠ [] := List.ne_nil_of_mem hcell
  obtain ⟨top, htop, bottom, hbottom, hrows⟩ :=
    exists_min_max (mt List.map_eq_nil_iff.1 hcells : sheet.cells.map (·.1.row.toNat) ≠ [])
  obtain ⟨left, hleft, right, hright, hcolumns⟩ :=
    exists_min_max (mt List.map_eq_nil_iff.1 hcells : sheet.cells.map (·.1.column.toNat) ≠ [])
  obtain ⟨first, hfirst, rfl⟩ := List.mem_map.1 htop
  obtain ⟨last, hlast, rfl⟩ := List.mem_map.1 hbottom
  obtain ⟨leftmost, hleftmost, rfl⟩ := List.mem_map.1 hleft
  obtain ⟨rightmost, hrightmost, rfl⟩ := List.mem_map.1 hright
  refine ⟨_, _, _, _, ?_, ⟨_, valueAt_ne_empty_iff.2 ⟨first, hfirst, rfl, rfl⟩⟩,
    ⟨_, valueAt_ne_empty_iff.2 ⟨leftmost, hleftmost, rfl, rfl⟩⟩,
    ⟨_, valueAt_ne_empty_iff.2 ⟨last, hlast, rfl, rfl⟩⟩,
    ⟨_, valueAt_ne_empty_iff.2 ⟨rightmost, hrightmost, rfl, rfl⟩⟩⟩
  intro row column hvalue
  obtain ⟨cell, hcell, rfl, rfl⟩ := valueAt_ne_empty_iff.1 hvalue
  obtain ⟨h₁, h₂⟩ := hrows _ (List.mem_map.2 ⟨cell, hcell, rfl⟩)
  obtain ⟨h₃, h₄⟩ := hcolumns _ (List.mem_map.2 ⟨cell, hcell, rfl⟩)
  exact ⟨h₁, h₂, h₃, h₄⟩

/-- A sheet without values hands over nothing. -/
lemma usedRange?_eq_none (h : ∀ row column, sheet.valueAt row column = .empty) :
    sheet.usedRange? = none := by
  have hcells : sheet.cells = [] := by
    refine List.eq_nil_iff_forall_not_mem.2 fun cell hcell => ?_
    exact valueAt_ne_empty_iff.2 ⟨cell, hcell, rfl, rfl⟩ (h _ _)
  rw [usedRange?_eq_bind, hcells]
  rfl

/-- An element of a list that is made of successive numbers. -/
lemma getD_map_range' {α : Type} (f : ℕ → α) (start count i : ℕ) (default : α) :
    ((List.range' start count).map f).getD i default =
      if i < count then f (start + i) else default := by
  split
  next hi =>
    rw [List.getD_eq_getElem _ _ (by simpa using hi), List.getElem_map, List.getElem_range',
      Nat.one_mul]
  next hi => rw [List.getD_eq_default _ _ (by simpa using hi)]

/-- The smallest rectangle holds what the sheet has at every place, and has no row to spare. -/
lemma Box.holds_range (h : sheet.Box top left bottom right) :
    (sheet.range top left bottom right).Holds sheet.valueAt 0 where
  vertical := h.vertical
  horizontal := h.horizontal
  count := (List.length_map _).trans List.length_range'
  wide cells hcells := by
    obtain ⟨row, -, rfl⟩ := List.mem_map.1 hcells
    exact (List.length_map _).trans List.length_range'
  entry_eq i j := by
    have houtside : ¬(i < bottom - top + 1 ∧ j < right - left + 1) →
        sheet.valueAt (top + i) (left + j) = .empty := by
      intro hlimits
      by_contra hvalue
      obtain ⟨-, hbottom, -, hright⟩ := h.inside _ _ hvalue
      omega
    rw [Range.entry]
    dsimp only [range]
    rw [getD_map_range']
    split
    next hi =>
      rw [getD_map_range']
      split
      next => rfl
      next hj => exact (houtside fun hlimits => hj hlimits.2).symm
    next hi => exact (houtside fun hlimits => hi hlimits.1).symm
  inside := h.inside

end Sheet

/-! ### How ranges are made -/

/-- A range is made new, handed over by a sheet, or made of another one by setting a value at a
place not above and not left of it; the values that it holds and the number of rows that it has to
spare are given. -/
inductive Range.Made : Range → (ℕ → ℕ → Value) → ℕ → Prop
  | ofSize {top left bottom right : ℕ} (hv : top ≤ bottom) (hh : left ≤ right) :
      Made (ofSize top left bottom right) (fun _ _ => .empty) 0
  | ofSheet {sheet : Sheet} {top left bottom right : ℕ} (h : sheet.Box top left bottom right) :
      Made (sheet.range top left bottom right) sheet.valueAt 0
  | set {r : Range} {values : ℕ → ℕ → Value} {spare row column : ℕ} (h : Made r values spare)
      (hrow : r.top ≤ row) (hcolumn : r.left ≤ column) (value : Value) :
      Made (r.set row column value)
        (fun row' column' => if row' = row ∧ column' = column then value else values row' column')
        (r.spareAfter row column spare)

/-- Ranges hold the values that they were made with. -/
lemma Range.Made.holds {r : Range} {values : ℕ → ℕ → Value} {spare : ℕ}
    (h : r.Made values spare) : r.Holds values spare := by
  induction h with
  | ofSize hv hh => exact holds_ofSize hv hh
  | ofSheet hbox => exact hbox.holds_range
  | set _ hrow hcolumn value ih => exact ih.set hrow hcolumn value

/-- **The rows of a range come out at their places**, however the range was made, unless one of its
values has no cell. -/
theorem Range.Made.exists_placed {r : Range} {values : ℕ → ℕ → Value} {spare : ℕ}
    (h : r.Made values spare) (hcells : ∀ row column, ¬(values row column).IsFarBelow) :
    ∃ rows, r.toRows = .ok rows ∧ r.Placed values spare rows :=
  h.holds.placed hcells

/-- The range of one place with a text set below it. -/
def grownRange : Range :=
  (Range.ofSize 0 0 0 0).set 1 0 (.text "x")

/-- Its last row is the second, but three rows come out. -/
theorem three_rows_of_grownRange :
    (∃ values, grownRange.Made values 1) ∧ grownRange.bottom = 1 ∧
      grownRange.toRows = .ok [[.empty], [.text "x"], [.empty]] :=
  ⟨⟨_, (Range.Made.ofSize (Nat.le_refl 0) (Nat.le_refl 0)).set (Nat.zero_le 1) (Nat.zero_le 0) _⟩,
    rfl, rfl⟩

end Screening
