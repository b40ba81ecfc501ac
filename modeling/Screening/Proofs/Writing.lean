/-
What a table leaves in a sheet.

A table is written text by text, row by row. Of the index of a row 32 bits are kept and of that of a
column 16, and only then it is checked whether the place is in the sheet; below the header empty
texts are passed over unchecked. So a text behind empty ones can be written at a place that is not
its own, over a text that was there. At each place a sheet holds the last text whose indices end in
those bits; it shows the table exactly if no index of a text loses any.

* `Sheet.Takes`, `Workbook.exists_ofTable_iff`: the texts that are accepted, and the tables.
* `Sheet.HoldsLast`, `Sheet.HoldsLast.put`: a sheet holds the last text at each place, also after
  one more text.
* `Sheet.HoldsLast.writeRow`, `Sheet.HoldsLast.writeRows`: the texts of a row, the rows of a table.
* `Sheet.HoldsLast.shows_iff`: when the sheet shows the table.
* `Workbook.ofTable_holdsLast`: what is written of any table.
-/
import Mathlib.Algebra.Group.Nat.Defs
import Mathlib.Data.List.GetD
import Mathlib.Tactic.ByContra
import Mathlib.Tactic.SplitIfs
import Screening.Sheet.Written

namespace Screening

/-! ### The texts of a table -/

/-- The text in a row and a column of a table, empty beyond its end. -/
def textAt (table : List (List String)) (row column : ℕ) : String :=
  (table.getD row []).getD column ""

variable {table before : List (List String)} {texts done : List String}

/-- A row without texts shows nothing. -/
lemma textAt_append_nil (before : List (List String)) (row column : ℕ) :
    textAt (before ++ [[]]) row column = textAt before row column := by
  rw [textAt, textAt]
  by_cases hrow : row < before.length
  · rw [List.getD_append _ _ _ _ hrow]
  · rw [List.getD_append_right _ _ _ _ (by omega), List.getD_eq_default before [] (by omega)]
    cases row - before.length <;> rfl

/-- One more text in the last row is shown behind the others of the row. -/
lemma textAt_append_text (before : List (List String)) (done : List String) (text : String)
    (row column : ℕ) :
    textAt (before ++ [done ++ [text]]) row column =
      if before.length = row ∧ done.length = column then text
      else textAt (before ++ [done]) row column := by
  rw [textAt, textAt]
  rcases Nat.lt_trichotomy row before.length with hrow | rfl | hrow
  · rw [List.getD_append _ _ _ _ hrow, List.getD_append _ _ _ _ hrow, if_neg (by omega)]
  · simp only [List.getD_append_right _ _ _ _ (Nat.le_refl _), Nat.sub_self, List.getD_cons_zero,
      true_and]
    rcases Nat.lt_trichotomy column done.length with hcolumn | rfl | hcolumn
    · rw [List.getD_append _ _ _ _ hcolumn, if_neg (by omega)]
    · rw [List.getD_append_right _ _ _ _ (Nat.le_refl _), Nat.sub_self, if_pos rfl]
      rfl
    · rw [if_neg (by omega), List.getD_eq_default _ _ (by simp; omega),
        List.getD_eq_default _ _ (by omega)]
  · rw [if_neg (by omega), List.getD_eq_default _ [] (by simp; omega),
      List.getD_eq_default _ [] (by simp; omega)]

/-- A text that is not empty stands in one of the rows, and in one of its columns. -/
lemma exists_of_textAt_ne_empty {row column : ℕ} (h : textAt table row column ≠ "") :
    ∃ hrow : row < table.length, column < (table[row]).length := by
  rw [textAt] at h
  by_cases hrow : row < table.length
  · refine ⟨hrow, ?_⟩
    rw [List.getD_eq_getElem _ _ hrow] at h
    by_cases hcolumn : column < (table[row]).length
    · exact hcolumn
    · exact absurd (List.getD_eq_default _ _ (by omega)) h
  · rw [List.getD_eq_default _ [] (by omega)] at h
    exact absurd rfl h

/-- A text that is not empty stands in the rectangle that the table fills. -/
lemma lt_of_textAt_ne_empty {rows columns row column : ℕ} (hrows : table.length ≤ rows)
    (hcolumns : ∀ texts ∈ table, texts.length ≤ columns) (h : textAt table row column ≠ "") :
    row < rows ∧ column < columns := by
  obtain ⟨hrow, hcolumn⟩ := exists_of_textAt_ne_empty h
  exact ⟨Nat.lt_of_lt_of_le hrow hrows,
    Nat.lt_of_lt_of_le hcolumn (hcolumns _ (List.getElem_mem hrow))⟩

/-! ### Sheets that show a table -/

/-- The value of a text in a sheet. The empty text has none. -/
def Value.ofText (text : String) : Value :=
  if text = "" then .empty else .text text

namespace Sheet

/-- A sheet holds the texts of a table at their places, and nothing else. -/
def Shows (sheet : Sheet) (table : List (List String)) : Prop :=
  ∀ row column, sheet.valueAt row column = .ofText (textAt table row column)

variable {sheet sheet' : Sheet} {row column : ℕ} {text : String}

/-! ### Texts that are accepted -/

/-- A text is accepted at its indices: it is passed over, or the bits that are kept of them are
those of a place in the sheet and the text is not too long. -/
def Takes (row column : ℕ) (text : String) : Prop :=
  (row ≠ 0 ∧ text = "") ∨
    (row % 2 ^ 32 < 1048576 ∧ column % 2 ^ 16 < 16384 ∧ text.length ≤ 32767)

/-- The place of two indices, of which the low bits are kept. -/
lemma toNat_ofIndices (row column : ℕ) :
    (Position.ofIndices row column).row.toNat = row % 2 ^ 32 ∧
      (Position.ofIndices row column).column.toNat = column % 2 ^ 16 :=
  ⟨UInt32.toNat_ofNat', UInt16.toNat_ofNat'⟩

/-- A text that is passed over is none to be put. -/
lemma put_empty_text (sheet : Sheet) (place : Position) : sheet.put place (.text "") = sheet := by
  simp [put, Value.isKept]

lemma write_eq_ok_iff :
    sheet.write (.ofIndices row column) text = .ok sheet' ↔
      (row % 2 ^ 32 < 1048576 ∧ column % 2 ^ 16 < 16384 ∧ text.length ≤ 32767) ∧
        sheet.put (.ofIndices row column) (.text text) = sheet' := by
  obtain ⟨hrow, hcolumn⟩ := toNat_ofIndices row column
  rw [write, hrow, hcolumn, rowLimit, columnLimit, textLimit]
  split
  next h => exact iff_of_false nofun (by omega)
  next h =>
    split
    next h' => exact iff_of_false nofun (by omega)
    next h' =>
      rw [Except.ok.injEq]
      exact (and_iff_right (by omega)).symm

/-- A row is written by its first text, if that is accepted, and then the others. -/
lemma writeRow_cons_eq_ok_iff :
    writeRow row column sheet (text :: texts) = .ok sheet' ↔
      Takes row column text ∧
        writeRow row (column + 1) (sheet.put (.ofIndices row column) (.text text)) texts =
          .ok sheet' := by
  rw [Sheet.writeRow]
  split
  next hskip =>
    rw [hskip.2, put_empty_text]
    exact (and_iff_right (.inl ⟨hskip.1, rfl⟩)).symm
  next hskip =>
    rw [Takes, or_iff_right hskip]
    split
    next e hwrite =>
      refine iff_of_false nofun fun h => ?_
      have hput : sheet.write (.ofIndices row column) text = .ok _ :=
        write_eq_ok_iff.2 ⟨h.1, rfl⟩
      rw [hwrite] at hput
      cases hput
    next mid hwrite =>
      obtain ⟨htakes, rfl⟩ := write_eq_ok_iff.1 hwrite
      exact (and_iff_right htakes).symm

/-- The rows of a table are written one after the other. -/
lemma writeRows_cons_eq_ok_iff :
    writeRows row sheet (texts :: table) = .ok sheet' ↔
      ∃ mid, writeRow row 0 sheet texts = .ok mid ∧ writeRows (row + 1) mid table = .ok sheet' := by
  rw [Sheet.writeRows]
  cases writeRow row 0 sheet texts with
  | error e =>
    refine iff_of_false nofun ?_
    rintro ⟨mid, hmid, -⟩
    cases hmid
  | ok mid =>
    refine ⟨fun h => ⟨mid, rfl, h⟩, ?_⟩
    rintro ⟨mid', hmid, h⟩
    cases hmid
    exact h

/-- What holds of all entries holds of the first one and of those behind it. -/
lemma forall_getElem?_cons {α : Type} {P : ℕ → α → Prop} {first : α} {rest : List α} :
    (∀ i entry, (first :: rest)[i]? = some entry → P i entry) ↔
      P 0 first ∧ ∀ i entry, rest[i]? = some entry → P (i + 1) entry := by
  refine ⟨fun h => ⟨h 0 first rfl, fun i => h (i + 1)⟩, ?_⟩
  rintro ⟨hfirst, hrest⟩ (_ | i) entry hentry
  · cases hentry
    exact hfirst
  · exact hrest i entry hentry

/-- A row is written exactly if all its texts are accepted. -/
lemma exists_writeRow_iff :
    (∃ sheet', writeRow row column sheet texts = .ok sheet') ↔
      ∀ i text, texts[i]? = some text → Takes row (column + i) text := by
  induction texts generalizing sheet column with
  | nil => exact iff_of_true ⟨sheet, rfl⟩ (by simp)
  | cons first texts ih =>
    simp only [writeRow_cons_eq_ok_iff, exists_and_left, ih, Nat.add_right_comm column 1]
    exact (forall_getElem?_cons (P := fun i => Takes row (column + i))).symm

/-- The rows of a table are written exactly if all their texts are accepted. -/
lemma exists_writeRows_iff :
    (∃ sheet', writeRows row sheet table = .ok sheet') ↔
      ∀ i texts, table[i]? = some texts → ∀ j text, texts[j]? = some text →
        Takes (row + i) j text := by
  induction table generalizing sheet row with
  | nil => exact iff_of_true ⟨sheet, rfl⟩ (by simp)
  | cons first table ih =>
    simp only [forall_getElem?_cons, writeRows_cons_eq_ok_iff, ← Nat.add_assoc,
      Nat.add_right_comm row _ 1]
    constructor
    · rintro ⟨sheet', mid, hfirst, hrest⟩
      exact ⟨by simpa using exists_writeRow_iff.1 ⟨mid, hfirst⟩, ih.1 ⟨sheet', hrest⟩⟩
    · rintro ⟨hfirst, hrest⟩
      obtain ⟨mid, hmid⟩ : ∃ mid, writeRow row 0 sheet first = .ok mid :=
        exists_writeRow_iff.2 (by simpa using hfirst)
      obtain ⟨sheet', hsheet'⟩ := ih.2 hrest
      exact ⟨sheet', mid, hmid, hsheet'⟩

/-! ### What is kept at a place -/

/-- A text that is not empty is at indices that end in the bits of a place. -/
structure Lands (table : List (List String)) (row column r c : ℕ) : Prop where
  text : textAt table row column ≠ ""
  row : row % 2 ^ 32 = r
  column : column % 2 ^ 16 = c

/-- A sheet holds at each place the last text that lands there, row by row, and nothing where none
does. -/
def HoldsLast (sheet : Sheet) (table : List (List String)) : Prop :=
  ∀ r c,
    (∃ row column, Lands table row column r c ∧
      sheet.valueAt r c = .text (textAt table row column) ∧
      ∀ row' column', Lands table row' column' r c →
        row' < row ∨ row' = row ∧ column' ≤ column) ∨
    (∀ row column, ¬Lands table row column r c) ∧ sheet.valueAt r c = .empty

lemma holdsLast_empty (name : String) : (empty name).HoldsLast [] := by
  intro r c
  refine .inr ⟨fun row column h => h.text ?_, ?_⟩
  · simp [textAt]
  · simp [valueAt, empty]

/-- The texts that a table has so far stand before the next one. -/
lemma lt_of_textAt_append_ne_empty (h : textAt (before ++ [done]) row column ≠ "") :
    row < before.length ∨ row = before.length ∧ column < done.length := by
  obtain ⟨hrow, hcolumn⟩ := exists_of_textAt_ne_empty h
  rcases Nat.lt_or_ge row before.length with hlt | hge
  · exact .inl hlt
  · rw [List.length_append, List.length_singleton] at hrow
    obtain rfl : row = before.length := by omega
    rw [List.getElem_concat_length rfl] at hcolumn
    exact .inr ⟨rfl, hcolumn⟩

/-- What lands at a place after one more text is that text, or did so before. -/
lemma Lands.of_append_text {r c : ℕ} (h : Lands (before ++ [done ++ [text]]) row column r c) :
    (before.length = row ∧ done.length = column) ∨ Lands (before ++ [done]) row column r c := by
  by_cases hplace : before.length = row ∧ done.length = column
  · exact .inl hplace
  · have htext := h.text
    rw [textAt_append_text, if_neg hplace] at htext
    exact .inr ⟨htext, h.row, h.column⟩

/-- What landed at a place before one more text stays the same. -/
lemma Lands.textAt_append_text {r c : ℕ} (h : Lands (before ++ [done]) row column r c)
    (text : String) :
    textAt (before ++ [done ++ [text]]) row column = textAt (before ++ [done]) row column := by
  have hlt := lt_of_textAt_append_ne_empty h.text
  rw [Screening.textAt_append_text, if_neg (by omega)]

/-- **One more text.** Once it is put at its place, the sheet holds the last texts again. -/
theorem HoldsLast.put (h : sheet.HoldsLast (before ++ [done])) (text : String) :
    (sheet.put (.ofIndices before.length done.length) (.text text)).HoldsLast
      (before ++ [done ++ [text]]) := by
  intro r c
  obtain ⟨hrow, hcolumn⟩ := toNat_ofIndices before.length done.length
  have htext : textAt (before ++ [done ++ [text]]) before.length done.length = text := by
    rw [textAt_append_text, if_pos ⟨rfl, rfl⟩]
  rw [valueAt_put, hrow, hcolumn]
  by_cases hput : (Value.text text).isKept = true ∧ before.length % 2 ^ 32 = r ∧
      done.length % 2 ^ 16 = c
  · -- the new text is the last one that lands there
    rw [if_pos hput]
    refine .inl ⟨before.length, done.length, ⟨?_, hput.2.1, hput.2.2⟩, by rw [htext], ?_⟩
    · rw [htext]
      simpa [Value.isKept] using hput.1
    · intro row' column' hlands
      rcases hlands.of_append_text with ⟨rfl, rfl⟩ | hlands
      · exact .inr ⟨rfl, Nat.le_refl _⟩
      · have hlt := lt_of_textAt_append_ne_empty hlands.text
        omega
  · -- the new text is empty or lands elsewhere
    have hother : ∀ row column, Lands (before ++ [done ++ [text]]) row column r c →
        Lands (before ++ [done]) row column r c := by
      intro row column hlands
      refine hlands.of_append_text.resolve_left ?_
      rintro ⟨rfl, rfl⟩
      have hne := hlands.text
      rw [htext] at hne
      exact hput ⟨by simpa [Value.isKept] using hne, hlands.row, hlands.column⟩
    rw [if_neg hput]
    rcases h r c with ⟨row, column, hlands, hvalue, hlast⟩ | ⟨hnone, hvalue⟩
    · have hsame := hlands.textAt_append_text text
      refine .inl ⟨row, column, ⟨?_, hlands.row, hlands.column⟩, ?_, ?_⟩
      · rw [hsame]
        exact hlands.text
      · rw [hsame]
        exact hvalue
      · exact fun row' column' hlands' => hlast row' column' (hother row' column' hlands')
    · exact .inr ⟨fun row column hlands => hnone row column (hother row column hlands), hvalue⟩

lemma name_put (sheet : Sheet) (place : Position) (value : Value) :
    (sheet.put place value).name = sheet.name := by
  rw [put]
  split <;> rfl

/-- The texts of a row are written behind what the row has. -/
lemma HoldsLast.writeRow (h : sheet.HoldsLast (before ++ [done]))
    (hwrite : writeRow before.length done.length sheet texts = .ok sheet') :
    sheet'.name = sheet.name ∧ sheet'.HoldsLast (before ++ [done ++ texts]) := by
  induction texts generalizing sheet done with
  | nil =>
    cases hwrite
    rw [List.append_nil]
    exact ⟨rfl, h⟩
  | cons text texts ih =>
    obtain ⟨-, hrest⟩ := writeRow_cons_eq_ok_iff.1 hwrite
    have hlength : (done ++ [text]).length = done.length + 1 := List.length_append
    obtain ⟨hname, hholds⟩ := ih (h.put text) (by rwa [hlength])
    rw [List.append_assoc, List.singleton_append] at hholds
    exact ⟨hname.trans (name_put _ _ _), hholds⟩

/-- A row without texts leaves nothing. -/
lemma HoldsLast.append_nil (h : sheet.HoldsLast before) : sheet.HoldsLast (before ++ [[]]) := by
  have hlands : ∀ row column r c,
      Lands (before ++ [[]]) row column r c ↔ Lands before row column r c := by
    intro row column r c
    constructor
    · rintro ⟨htext, hrow, hcolumn⟩
      exact ⟨textAt_append_nil before row column ▸ htext, hrow, hcolumn⟩
    · rintro ⟨htext, hrow, hcolumn⟩
      exact ⟨(textAt_append_nil before row column).symm ▸ htext, hrow, hcolumn⟩
  intro r c
  simpa only [hlands, textAt_append_nil] using h r c

/-- The rows of a table are written behind those that the sheet has. -/
lemma HoldsLast.writeRows (h : sheet.HoldsLast before)
    (hwrite : writeRows before.length sheet table = .ok sheet') :
    sheet'.name = sheet.name ∧ sheet'.HoldsLast (before ++ table) := by
  induction table generalizing sheet before with
  | nil =>
    cases hwrite
    rw [List.append_nil]
    exact ⟨rfl, h⟩
  | cons texts table ih =>
    obtain ⟨mid, hfirst, hrest⟩ := writeRows_cons_eq_ok_iff.1 hwrite
    obtain ⟨hname, hholds⟩ : mid.name = sheet.name ∧ mid.HoldsLast (before ++ [[] ++ texts]) :=
      h.append_nil.writeRow hfirst
    rw [List.nil_append] at hholds
    have hlength : (before ++ [texts]).length = before.length + 1 := List.length_append
    obtain ⟨hname', hholds'⟩ := ih hholds (by rwa [hlength])
    rw [List.append_assoc, List.singleton_append] at hholds'
    exact ⟨hname'.trans hname, hholds'⟩

/-- **What a sheet shows.** A sheet that holds the last texts shows the table exactly if the indices
of its texts lose no bits. -/
theorem HoldsLast.shows_iff (h : sheet.HoldsLast table) :
    sheet.Shows table ↔
      ∀ row column, textAt table row column ≠ "" → row < 2 ^ 32 ∧ column < 2 ^ 16 := by
  constructor
  · intro hshows row column htext
    have hvalue := hshows row column
    rw [Value.ofText, if_neg htext] at hvalue
    rcases h row column with ⟨_, _, ⟨-, hrow, hcolumn⟩, -, -⟩ | ⟨-, hempty⟩
    · rw [← hrow, ← hcolumn]
      exact ⟨Nat.mod_lt _ (by decide), Nat.mod_lt _ (by decide)⟩
    · rw [hvalue] at hempty
      cases hempty
  · intro hbounds r c
    rcases h r c with ⟨row, column, ⟨htext, hrow, hcolumn⟩, hvalue, -⟩ | ⟨hnone, hempty⟩
    · obtain ⟨hrow', hcolumn'⟩ := hbounds row column htext
      rw [Nat.mod_eq_of_lt hrow'] at hrow
      rw [Nat.mod_eq_of_lt hcolumn'] at hcolumn
      subst hrow hcolumn
      rw [hvalue, Value.ofText, if_neg htext]
    · have htext : textAt table r c = "" := by
        by_contra htext
        obtain ⟨hrow, hcolumn⟩ := hbounds r c htext
        exact hnone r c ⟨htext, Nat.mod_eq_of_lt hrow, Nat.mod_eq_of_lt hcolumn⟩
      rw [hempty, htext]
      rfl

/-! ### Tables that are accepted -/

/-- A table that is accepted: its header has no more columns than a sheet, and its other texts that
are not empty have indices whose low bits are of a place in the sheet. No text is too long. -/
structure Accepts (table : List (List String)) : Prop where
  header : (table.getD 0 []).length ≤ 16384
  places : ∀ row column, textAt table row column ≠ "" →
    row % 2 ^ 32 < 1048576 ∧ column % 2 ^ 16 < 16384
  texts : ∀ row column, (textAt table row column).length ≤ 32767

lemma textAt_of_getElem? {i j : ℕ} (htexts : table[i]? = some texts)
    (htext : texts[j]? = some text) : textAt table i j = text := by
  rw [textAt, List.getD_eq_getElem?_getD (l := table), htexts, Option.getD_some,
    List.getD_eq_getElem?_getD, htext, Option.getD_some]

/-- All texts of a table are accepted exactly if it is. -/
lemma accepts_iff :
    Accepts table ↔ ∀ i texts, table[i]? = some texts → ∀ j text, texts[j]? = some text →
      Takes i j text := by
  constructor
  · intro h i texts htexts j text htext
    have hat := textAt_of_getElem? htexts htext
    have hlength := h.texts i j
    rw [hat] at hlength
    by_cases hempty : text = ""
    · by_cases hi : i = 0
      · subst hi
        obtain ⟨hj, -⟩ := List.getElem?_eq_some_iff.1 htext
        have hheader := h.header
        rw [List.getD_eq_getElem?_getD, htexts, Option.getD_some] at hheader
        refine .inr ⟨by decide, ?_, hlength⟩
        rw [Nat.mod_eq_of_lt (Nat.lt_of_lt_of_le (Nat.lt_of_lt_of_le hj hheader) (by decide))]
        exact Nat.lt_of_lt_of_le hj hheader
      · exact .inl ⟨hi, hempty⟩
    · obtain ⟨hrow, hcolumn⟩ := h.places i j (by rwa [hat])
      exact .inr ⟨hrow, hcolumn, hlength⟩
  · intro h
    have htakes : ∀ row column, textAt table row column ≠ "" →
        Takes row column (textAt table row column) := by
      intro row column htext
      obtain ⟨hrow, hcolumn⟩ := exists_of_textAt_ne_empty htext
      have hentry := List.getElem?_eq_getElem hrow
      have hentry' := List.getElem?_eq_getElem hcolumn
      rw [textAt_of_getElem? hentry hentry']
      exact h row _ hentry column _ hentry'
    refine ⟨?_, ?_, ?_⟩
    · -- the first column that is not in a sheet is refused, even if its text is empty
      by_contra hlong
      rw [Nat.not_le] at hlong
      cases table with
      | nil => exact absurd hlong (by decide)
      | cons header table =>
        rcases h 0 header rfl 16384 _ (List.getElem?_eq_getElem hlong) with
          hskip | ⟨-, hcolumn, -⟩
        · exact hskip.1 rfl
        · exact absurd hcolumn (by decide)
    · intro row column htext
      obtain hskip | ⟨hrow, hcolumn, -⟩ := htakes row column htext
      · exact absurd hskip.2 htext
      · exact ⟨hrow, hcolumn⟩
    · intro row column
      by_cases htext : textAt table row column = ""
      · rw [htext]
        exact Nat.zero_le _
      · obtain hskip | ⟨-, -, hlength⟩ := htakes row column htext
        · exact absurd hskip.2 htext
        · exact hlength

end Sheet

namespace Workbook

/-- A table is written into one sheet. -/
lemma ofTable_eq_ok_iff {workbook : Workbook} :
    ofTable table = .ok workbook ↔
      ∃ sheet, Sheet.writeRows 0 (.empty Sheet.reportName) table = .ok sheet ∧
        ⟨[sheet]⟩ = workbook := by
  rw [ofTable]
  cases Sheet.writeRows 0 (.empty Sheet.reportName) table <;> simp [Except.map]

/-- A table is written exactly if it is accepted. -/
lemma exists_ofTable_iff : (∃ workbook, ofTable table = .ok workbook) ↔ Sheet.Accepts table := by
  have hrows : (∃ sheet, Sheet.writeRows 0 (.empty Sheet.reportName) table = .ok sheet) ↔
      Sheet.Accepts table := by
    rw [Sheet.exists_writeRows_iff, Sheet.accepts_iff]
    simp only [Nat.zero_add]
  simp only [← hrows, ofTable_eq_ok_iff]
  constructor
  · rintro ⟨_, sheet, hsheet, -⟩
    exact ⟨sheet, hsheet⟩
  · rintro ⟨sheet, hsheet⟩
    exact ⟨_, sheet, hsheet, rfl⟩

/-- What is written is one sheet with the last texts. -/
lemma exists_holdsLast {workbook : Workbook} (h : ofTable table = .ok workbook) :
    ∃ sheet, workbook = ⟨[sheet]⟩ ∧ sheet.name = Sheet.reportName ∧ sheet.HoldsLast table := by
  obtain ⟨sheet, hsheet, rfl⟩ := ofTable_eq_ok_iff.1 h
  exact ⟨sheet, rfl, (Sheet.holdsLast_empty Sheet.reportName).writeRows hsheet⟩

/-- **What is written of a table.** A table is written exactly if it is accepted. Its sheet then
holds the last text at each place, and shows the table exactly if the indices of its texts lose no
bits. -/
theorem ofTable_holdsLast (table : List (List String)) :
    ((∃ workbook, ofTable table = .ok workbook) ↔ Sheet.Accepts table) ∧
      ∀ workbook, ofTable table = .ok workbook →
        ∃ sheet, workbook = ⟨[sheet]⟩ ∧ sheet.name = "Processed Report" ∧ sheet.HoldsLast table ∧
          (sheet.Shows table ↔
            ∀ row column, textAt table row column ≠ "" → row < 2 ^ 32 ∧ column < 2 ^ 16) := by
  refine ⟨exists_ofTable_iff, fun workbook h => ?_⟩
  obtain ⟨sheet, hworkbook, hname, hholds⟩ := exists_holdsLast h
  exact ⟨sheet, hworkbook, hname, hholds, hholds.shows_iff⟩

/-- A table with rows of different lengths. -/
def raggedTable : List (List String) :=
  [["h"], [], ["", "a"]]

/-- Its two texts, at their places. -/
def raggedSheet : Sheet :=
  .ofCells "Processed Report" [(.ofIndices 0 0, .text "h"), (.ofIndices 2 1, .text "a")]

/-- It is written as it stands. -/
theorem ofTable_holdsLast_ragged :
    ofTable raggedTable = .ok ⟨[raggedSheet]⟩ ∧ raggedSheet.Shows raggedTable := by
  have hwrite : ofTable raggedTable = .ok ⟨[raggedSheet]⟩ := rfl
  obtain ⟨sheet, hsheet, -, -, hshows⟩ := (ofTable_holdsLast raggedTable).2 _ hwrite
  cases hsheet
  exact ⟨hwrite, hshows.2 fun row column => lt_of_textAt_ne_empty (by decide) (by decide)⟩

/-! ### A text behind many empty ones -/

/-- A table whose second row has two texts and a number of empty ones between them. -/
def wideTable (n : ℕ) : List (List String) :=
  [["h"], "a" :: (List.replicate n "" ++ ["b"])]

/-- It has three texts. -/
lemma textAt_wideTable (n row column : ℕ) :
    textAt (wideTable n) row column =
      if row = 0 ∧ column = 0 then "h"
      else if row = 1 ∧ column = 0 then "a"
      else if row = 1 ∧ column = n + 1 then "b"
      else "" := by
  have hrest (c : ℕ) : (List.replicate n "" ++ ["b"])[c]?.getD "" = if c = n then "b" else "" := by
    rw [List.getElem?_append, List.length_replicate]
    by_cases hlt : c < n
    · rw [if_pos hlt, if_neg (Nat.ne_of_lt hlt), List.getElem?_replicate_of_lt hlt]
      rfl
    · rw [if_neg hlt, List.getElem?_singleton]
      have hiff : c - n = 0 ↔ c = n := by omega
      simp only [hiff]
      split <;> rfl
  rcases row with _ | _ | row
  · cases column <;> simp [textAt, wideTable]
  · cases column <;> simp [textAt, wideTable, hrest]
  · simp [textAt, wideTable]

lemma lt_of_textAt_wideTable {n row column : ℕ} (h : textAt (wideTable n) row column ≠ "") :
    row < 2 ∧ column < n + 2 := by
  refine lt_of_textAt_ne_empty ?_ ?_ h
  · simp [wideTable]
  · simp [wideTable]

/-- The texts of the table are accepted if the last one lands in the sheet. -/
lemma accepts_wideTable {n : ℕ} (h : (n + 1) % 2 ^ 16 < 16384) :
    Sheet.Accepts (wideTable n) where
  header := show 1 ≤ 16384 by decide
  places row column htext := by
    rw [textAt_wideTable] at htext
    split_ifs at htext with h₁ h₂ h₃
    · rw [h₁.1, h₁.2]
      decide
    · rw [h₂.1, h₂.2]
      decide
    · rw [h₃.1, h₃.2]
      exact ⟨by decide, h⟩
    · exact absurd rfl htext
  texts row column := by
    rw [textAt_wideTable]
    split_ifs <;> decide

/-- **A text that is moved.** A text behind 65536 others, all but the first of them empty, is
written in the place of the first, and no error is met. -/
theorem not_shows_wideTable :
    ∃ sheet, ofTable (wideTable 65535) = .ok ⟨[sheet]⟩ ∧
      textAt (wideTable 65535) 1 0 = "a" ∧ sheet.valueAt 1 0 = .text "b" ∧
      textAt (wideTable 65535) 1 65536 = "b" ∧ sheet.valueAt 1 65536 = .empty ∧
      ¬sheet.Shows (wideTable 65535) := by
  obtain ⟨workbook, hwrite⟩ := exists_ofTable_iff.2 (accepts_wideTable (n := 65535) (by decide))
  obtain ⟨sheet, rfl, -, hholds⟩ := exists_holdsLast hwrite
  have hfirst : textAt (wideTable 65535) 1 0 = "a" := textAt_wideTable 65535 1 0
  have hlast : textAt (wideTable 65535) 1 65536 = "b" := textAt_wideTable 65535 1 65536
  have hlands : Sheet.Lands (wideTable 65535) 1 65536 1 0 :=
    ⟨by rw [hlast]; decide, by decide, by decide⟩
  refine ⟨sheet, hwrite, hfirst, ?_, hlast, ?_, fun hshows => ?_⟩
  · rcases hholds 1 0 with ⟨row, column, hkept, hvalue, hbehind⟩ | ⟨hnone, -⟩
    · -- no text stands behind the last one of the table
      have hbehind := hbehind 1 65536 hlands
      obtain ⟨hrow, hcolumn⟩ := lt_of_textAt_wideTable hkept.text
      obtain ⟨rfl, rfl⟩ : row = 1 ∧ column = 65536 := by omega
      rw [hvalue, hlast]
    · exact absurd hlands (hnone 1 65536)
  · rcases hholds 1 65536 with ⟨row, column, hkept, -, -⟩ | ⟨-, hempty⟩
    · exact absurd hkept.column (by omega)
    · exact hempty
  · have hbounds := hholds.shows_iff.1 hshows 1 65536 hlands.text
    omega

end Workbook

end Screening
