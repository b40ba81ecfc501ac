/-
What is read of a row.

A row is tested for being blank, and seven of its columns are read, trimmed. Nothing else of it has a
say: rows with the same reading become the same line, and sheets whose rows have the same readings
become the same report. White space around a text, blank cells at the end of a row, a number that is
kept as a text and whatever stands in the other columns leave the reading as it is.

* `Row.SameReading`: two rows are read alike.
* `Line.ofRow?_eq_of_sameReading`: they become the same line.
* `Cell.Respelled`, `Row.Edit`: changes of a row that its reading does not see.
* `Row.Edit.sameReading`: one such change; `Row.sameReading_of_edits`: any number of them.
* `Report.depends_on_reading`: the lines and the report depend on the readings only.
-/
import Mathlib.Data.List.Forall2
import Mathlib.Logic.Relation
import Screening.Proofs.Assembly
import Screening.Proofs.Digits

namespace Screening

/-! ### Texts of numbers -/

/-- A whole number is written with its digits, behind a sign if it is negative. -/
lemma toString_int (n : ℤ) :
    toString n = String.ofList ((if n < 0 then ['-'] else []) ++ Nat.toDigits 10 n.natAbs) := by
  cases n with
  | ofNat n => rfl
  | negSucc n =>
    rw [if_pos (Int.negSucc_lt_zero n), String.ofList_append, Int.natAbs_negSucc]
    rfl

namespace Text

/-- The text of some digits and more is not blank. -/
lemma isBlank_of_toDigits {front back : List Char} (n : ℕ) :
    isBlank (String.ofList (front ++ Nat.toDigits 10 n ++ back)) = false := by
  obtain ⟨c, hc⟩ := List.exists_mem_of_ne_nil _ (@Nat.toDigits_ne_nil n 10)
  refine isBlank_eq_false_iff.2 ⟨c, ?_, isSpace_of_isDigit
    (Nat.isDigit_of_mem_toDigits (by decide) (by decide) hc)⟩
  simp [hc]

end Text

/-- Positional notation has a digit or a point. -/
lemma Decimal.exists_mem_positional (d : Decimal) :
    ∃ c ∈ d.positional, Text.isSpace c = false := by
  rw [positional]
  split
  · obtain ⟨c, hc⟩ := List.exists_mem_of_ne_nil _ (@Nat.toDigits_ne_nil d.coefficient 10)
    exact ⟨c, List.mem_append_left _ hc, Text.isSpace_of_isDigit
      (Nat.isDigit_of_mem_toDigits (by decide) (by decide) hc)⟩
  · split
    · exact ⟨'.', by simp, by decide⟩
    · exact ⟨'0', by simp, by decide⟩

/-- The text of a number is not blank, whatever number it is. -/
lemma Binary64.isBlank_text (x : Binary64) : Text.isBlank x.text = false := by
  obtain ⟨c, hc, hspace⟩ := (x.shortest .up).exists_mem_positional
  rw [text]
  split
  · decide
  · split
    · exact Text.isBlank_eq_false_iff.2 ⟨'i', by simp, by decide⟩
    · exact Text.isBlank_eq_false_iff.2 ⟨c, by simp [hc], hspace⟩

namespace Cell

/-- A cell with a number, whole or not. -/
def IsNumber (cell : Cell) : Prop :=
  (∃ n, cell = .int n) ∨ ∃ x, cell = .float x

lemma isBlank_toString (n : ℤ) : Text.isBlank (toString n) = false := by
  have h := @Text.isBlank_of_toDigits (if n < 0 then ['-'] else []) [] n.natAbs
  rwa [List.append_nil, ← toString_int] at h

/-- The text of a number is not blank. -/
lemma IsNumber.isBlank_asText {cell : Cell} (h : cell.IsNumber) :
    Text.isBlank cell.asText = false := by
  rcases h with ⟨n, rfl⟩ | ⟨x, rfl⟩
  · exact isBlank_toString n
  · rw [asText, Binary64.cellText]
    split
    · exact isBlank_toString _
    · exact x.isBlank_text

end Cell

/-! ### White space around a text -/

namespace Text

/-- White space in front is lost to trimming, and so is white space behind. -/
lemma trim_padded {left right : String} (hleft : isBlank left = true) (hright : isBlank right = true)
    (s : String) : trim (left ++ s ++ right) = trim s := by
  have hback : ∀ c ∈ right.toList.reverse, isSpace c = true := fun c hc =>
    isBlank_iff.1 hright c (List.mem_reverse.1 hc)
  rw [← String.toList_inj, toList_trim, toList_trim, String.toList_append, String.toList_append,
    List.append_assoc, trimStart, List.dropWhile_append_of_pos (isBlank_iff.1 hleft), ← trimStart,
    ← trimStart_trimEnd, trimEnd, List.reverse_append, trimStart.eq_def (_ ++ _),
    List.dropWhile_append_of_pos hback]
  exact trimStart_trimEnd s.toList

/-- White space around a text leaves it blank or not as it was. -/
lemma isBlank_padded {left right : String} (hleft : isBlank left = true)
    (hright : isBlank right = true) (s : String) : isBlank (left ++ s ++ right) = isBlank s := by
  rw [isBlank] at hleft hright ⊢
  rw [String.toList_append, String.toList_append, List.all_append, List.all_append, hleft, hright,
    Bool.true_and, Bool.and_true, isBlank]

end Text

/-! ### Readings -/

/-- The columns that are read. -/
def Column.read : List ℕ :=
  [2, 3, 8, 11, 14, 22, 26]

example : Column.read =
    [Column.file, Column.reference, Column.customer, Column.city, Column.ctr, Column.textA,
      Column.textB] := rfl

namespace Row

/-- Two rows are read alike: both are blank or neither is, and the columns that are read have the
same texts. -/
structure SameReading (row row' : Row) : Prop where
  blank : row.isBlank = row'.isBlank
  texts : ∀ column ∈ Column.read, row.get column = row'.get column

lemma SameReading.refl (row : Row) : row.SameReading row :=
  ⟨rfl, fun _ _ => rfl⟩

lemma SameReading.symm {row row' : Row} (h : row.SameReading row') : row'.SameReading row :=
  ⟨h.blank.symm, fun column hcolumn => (h.texts column hcolumn).symm⟩

lemma SameReading.trans {row row' row'' : Row} (h : row.SameReading row')
    (h' : row'.SameReading row'') : row.SameReading row'' :=
  ⟨h.blank.trans h'.blank,
    fun column hcolumn => (h.texts column hcolumn).trans (h'.texts column hcolumn)⟩

/-- A customer is read from the columns that are read. -/
lemma SameReading.ofRow_eq {row row' : Row} (h : row.SameReading row') :
    Subject.ofRow row = Subject.ofRow row' := by
  rw [Subject.ofRow, Subject.ofRow, h.texts Column.customer (by decide),
    h.texts Column.ctr (by decide), h.texts Column.city (by decide),
    h.texts Column.textA (by decide), h.texts Column.textB (by decide)]

end Row

/-- Rows that are read alike become the same line. -/
lemma Line.ofRow?_eq_of_sameReading {row row' : Row} (h : row.SameReading row')
    (criteria : Criteria) : ofRow? row criteria = ofRow? row' criteria := by
  rw [ofRow?, ofRow?, h.blank, h.ofRow_eq, h.texts Column.file (by decide),
    h.texts Column.reference (by decide)]

/-- Sheets whose rows are read alike become the same report, or fail alike. -/
lemma Report.assemble_eq_of_sameReading {rows rows' : List Row}
    (h : List.Forall₂ Row.SameReading rows rows') (criteria : Criteria) :
    assemble rows criteria = assemble rows' criteria := by
  refine assemble_congr ?_
  induction h with
  | nil => rfl
  | cons hrow _ ih =>
    rw [List.map_cons, List.map_cons, Line.ofRow?_eq_of_sameReading hrow, ih]

/-! ### Changes that are not read -/

/-- A cell is spelled in another way: a text with white space around it, or a number kept as a
text. -/
inductive Cell.Respelled : Cell → Cell → Prop
  | padded (left s right : String) (hleft : Text.isBlank left = true)
      (hright : Text.isBlank right = true) : Respelled (.text s) (.text (left ++ s ++ right))
  | number (cell : Cell) (h : cell.IsNumber) : Respelled cell (.text cell.asText)

/-- A cell that is spelled in another way is blank or not as before. -/
lemma Cell.Respelled.isBlank_eq {cell cell' : Cell} (h : cell.Respelled cell') :
    cell.isBlank = cell'.isBlank := by
  cases h with
  | padded left s right hleft hright => exact (Text.isBlank_padded hleft hright s).symm
  | number cell hnumber =>
    have htext : (Cell.text cell.asText).isBlank = false := hnumber.isBlank_asText
    rw [htext]
    rcases hnumber with ⟨n, rfl⟩ | ⟨x, rfl⟩ <;> rfl

/-- A cell that is spelled in another way has the same trimmed text. -/
lemma Cell.Respelled.trim_asText_eq {cell cell' : Cell} (h : cell.Respelled cell') :
    Text.trim cell.asText = Text.trim cell'.asText := by
  cases h with
  | padded left s right hleft hright => exact (Text.trim_padded hleft hright s).symm
  | number => rfl

namespace Row

/-- A change of a row that is not read: a cell is spelled in another way, blank cells are appended or
cut off at the end, or a row that is not blank gets any other cells in the columns that are not read
and stays so. -/
inductive Edit : Row → Row → Prop
  | respelled (before after : Row) {cell cell' : Cell} (h : cell.Respelled cell') :
      Edit (before ++ cell :: after) (before ++ cell' :: after)
  | lengthened (row cells : Row) (h : ∀ cell ∈ cells, cell.isBlank = true) : Edit row (row ++ cells)
  | shortened (row cells : Row) (h : ∀ cell ∈ cells, cell.isBlank = true) : Edit (row ++ cells) row
  | unread (row row' : Row) (h : ∀ column ∈ Column.read, row[column]? = row'[column]?)
      (hrow : row.isBlank = false) (hrow' : row'.isBlank = false) : Edit row row'

variable {row row' : Row}

/-- A cell that is spelled in another way is read as before. -/
lemma sameReading_respelled (before after : Row) {cell cell' : Cell} (h : cell.Respelled cell') :
    SameReading (before ++ cell :: after) (before ++ cell' :: after) where
  blank := by
    rw [isBlank, isBlank, List.all_append, List.all_append, List.all_cons, List.all_cons,
      h.isBlank_eq]
  texts column _ := by
    rw [get, get]
    rcases Nat.lt_trichotomy column before.length with hlt | rfl | hgt
    · rw [List.getElem?_append_left hlt, List.getElem?_append_left hlt]
    · simp only [List.getElem?_append_right (Nat.le_refl _), Nat.sub_self, List.getElem?_cons_zero]
      exact h.trim_asText_eq
    · obtain ⟨n, rfl⟩ := Nat.exists_eq_add_of_lt hgt
      have hindex : before.length + n + 1 - before.length = n + 1 := by omega
      rw [List.getElem?_append_right (by omega), List.getElem?_append_right (by omega), hindex,
        List.getElem?_cons_succ, List.getElem?_cons_succ]

/-- Blank cells at the end of a row are read as no cells. -/
lemma sameReading_append {cells : Row} (h : ∀ cell ∈ cells, cell.isBlank = true) (row : Row) :
    SameReading row (row ++ cells) where
  blank := by
    have hcells : cells.all Cell.isBlank = true := List.all_eq_true.2 h
    rw [isBlank, isBlank, List.all_append, hcells, Bool.and_true]
  texts column _ := by
    by_cases hcolumn : column < row.length
    · rw [get, get, List.getElem?_append_left hcolumn]
    · -- beyond the end the text is empty, and so is the text of a blank cell
      have hvoid : Row.IsVoid cells := fun cell hcell => Cell.isBlank_iff_isVoid.1 (h cell hcell)
      have hbehind := get_eq_empty hvoid (column - row.length)
      rw [get] at hbehind
      rw [get, get, List.getElem?_eq_none (Nat.not_lt.1 hcolumn),
        List.getElem?_append_right (Nat.not_lt.1 hcolumn)]
      exact hbehind.symm

/-- **One change that is not read.** -/
lemma Edit.sameReading (h : row.Edit row') : row.SameReading row' := by
  cases h with
  | respelled before after h => exact sameReading_respelled before after h
  | lengthened row cells h => exact sameReading_append h row
  | shortened row cells h => exact (sameReading_append h row').symm
  | unread row row' h hrow hrow' =>
    refine ⟨hrow.trans hrow'.symm, fun column hcolumn => ?_⟩
    rw [get, get, h column hcolumn]

/-- Any number of changes that are not read. -/
lemma sameReading_of_edits (h : Relation.ReflTransGen Edit row row') : row.SameReading row' := by
  induction h with
  | refl => exact .refl row
  | tail _ hedit ih => exact ih.trans hedit.sameReading

end Row

namespace Report

/-- **A report depends on the readings of its rows.** Rows that are both blank or both not, and have
the same texts in the columns that are read, become the same line under all criteria, so sheets of
such rows become the same report. That goes for rows with any number of changes that are not read. -/
theorem depends_on_reading :
    (∀ row row' : Row, row.SameReading row' →
      ∀ criteria, Line.ofRow? row criteria = Line.ofRow? row' criteria) ∧
    (∀ rows rows' : List Row, List.Forall₂ Row.SameReading rows rows' →
      ∀ criteria, assemble rows criteria = assemble rows' criteria) ∧
    (∀ row row' : Row, Relation.ReflTransGen Row.Edit row row' →
      ∀ criteria, Line.ofRow? row criteria = Line.ofRow? row' criteria) ∧
    ∀ rows rows' : List Row, List.Forall₂ (Relation.ReflTransGen Row.Edit) rows rows' →
      ∀ criteria, assemble rows criteria = assemble rows' criteria := by
  refine ⟨fun row row' h => Line.ofRow?_eq_of_sameReading h,
    fun rows rows' h => assemble_eq_of_sameReading h, ?_, ?_⟩
  · intro row row' h
    exact Line.ofRow?_eq_of_sameReading (Row.sameReading_of_edits h)
  · intro rows rows' h
    exact assemble_eq_of_sameReading (List.Forall₂.imp (fun _ _ => Row.sameReading_of_edits) h)

/-- A row with a name and a numeric code. -/
def shortRow : Row :=
  List.replicate 8 .empty ++ [.text "Acme"] ++ List.replicate 5 .empty ++ [.int 7]

/-- The row with an error in the first column, white space around the name, the code kept as a text,
and more blank cells. -/
def longRow : Row :=
  .error "#N/A" :: List.replicate 7 .empty ++ [.text ("\u3000" ++ "Acme" ++ " ")] ++
    List.replicate 5 .empty ++ [.text "7", .empty, .text " "]

/-- The long row is made of the short one by four changes. -/
lemma edits_longRow : Relation.ReflTransGen Row.Edit shortRow longRow := by
  have hmark : Row.Edit shortRow (.error "#N/A" :: shortRow.tail) :=
    .unread _ _ (by decide) (by decide) (by decide)
  have hpad : Row.Edit (.error "#N/A" :: shortRow.tail) (longRow.take 14 ++ [.int 7]) :=
    .respelled (.error "#N/A" :: List.replicate 7 Cell.empty)
      (List.replicate 5 Cell.empty ++ [Cell.int 7])
      (.padded "\u3000" "Acme" " " (by decide) (by decide))
  have hspell : Row.Edit (longRow.take 14 ++ [.int 7]) (longRow.take 15) :=
    .respelled (longRow.take 14) [] (.number (.int 7) (.inl ⟨7, rfl⟩))
  have hlengthen : Row.Edit (longRow.take 15) longRow :=
    .lengthened _ [.empty, .text " "] (by decide)
  exact (((Relation.ReflTransGen.single hmark).tail hpad).tail hspell).tail hlengthen

/-- A sheet with the short row and a row without cells has the same report as one with the long row
and a row of a blank cell. -/
theorem depends_on_reading_respelled :
    shortRow.SameReading longRow ∧ Relation.ReflTransGen Row.Edit shortRow longRow ∧
      Line.ofRow? shortRow .empty = Line.ofRow? longRow .empty ∧
      (Line.ofRow? shortRow .empty).isSome = true ∧
      assemble [shortRow, []] .empty = assemble [longRow, [.text " "]] .empty := by
  obtain ⟨hline, hreport, hedits, -⟩ := depends_on_reading
  have hreading : shortRow.SameReading longRow := ⟨by decide, by decide⟩
  have hblank : Row.SameReading [] [.text " "] := ⟨by decide, by decide⟩
  exact ⟨hreading, edits_longRow, hedits _ _ edits_longRow .empty, by decide,
    hreport _ _ (.cons hreading (.cons hblank .nil)) .empty⟩

end Report

end Screening
