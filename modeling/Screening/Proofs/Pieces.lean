/-
The values of a key, read piece by piece.

Bars divide a search text into pieces. A piece gives a key at most one value: what follows the first
place in it where the key and an equals sign stand together. The scan of the joined columns looks for
its matches from the left and never at the pieces, yet it finds the same values in the same order,
because neither a key nor a value holds a bar.

* `Field.afterFirst?`, `pieceValues`: the values of a key, defined by the pieces.
* `Field.values_append_bar`: the scan up to a bar finds the values of the pieces before it.
* `FieldKey.extract_combinedText`: what the scan of two joined columns finds.
* `Line.ShowsKey`, `Line.Shows`: the slots of a key and their names, and those of the three keys.
* `Line.ofRow?_shows_pieces`: the slots of the line of a row.
-/
import Mathlib.Data.List.GetD
import Mathlib.Tactic.Ring
import Screening.Proofs.Letters
import Screening.Report

namespace Screening

/-! ### Values by pieces -/

namespace Field

/-- Whether a key and an equals sign stand at the beginning of a text, the case of ASCII letters
ignored in the key. -/
def startsWithKey (key text : List Char) : Bool :=
  (text.take key.length).map Char.toLower == key.map Char.toLower && text[key.length]? == some '='

/-- The text after the first place where a key and an equals sign stand together. -/
def afterFirst? (key piece : List Char) : Option (List Char) :=
  (piece.tails.find? (startsWithKey key)).map (·.drop (key.length + 1))

end Field

/-- The pieces that bars divide a text into; the last one needs no bar after it. -/
def pieces (text : String) : List (List Char) :=
  text.toList.splitOn '|'

/-- The values of a key of a name in two columns: of each piece at most one, trimmed, and none if
blank. -/
def pieceValues (name textA textB : String) : List String :=
  (((pieces textA ++ pieces textB).filterMap (Field.afterFirst? name.toList)).map
    fun v => Text.trim (String.ofList v)).filter (· ≠ "")

/-! ### One match -/

namespace Field

/-- A match of a key at the beginning of a text leaves the text after its equals sign. -/
lemma afterKey?_eq_ite (key text : List Char) :
    afterKey? (key ++ ['=']) text =
      if startsWithKey key text then some (text.drop (key.length + 1)) else none := by
  induction key generalizing text with
  | nil =>
    cases text with
    | nil => rfl
    | cons c cs =>
      have hc : c.toLower = '=' ↔ c = '=' :=
        ⟨Text.eq_of_toLower_eq (by decide), fun h => by rw [h]; rfl⟩
      simp [afterKey?, startsWithKey, show Char.toLower '=' = '=' from rfl, hc]
  | cons k ks ih =>
    cases text with
    | nil => rfl
    | cons c cs =>
      rw [List.cons_append, afterKey?, ih]
      by_cases h : c.toLower = k.toLower <;> simp [startsWithKey, h]

/-- A key without a bar is matched before the next bar or not at all. -/
lemma afterKey?_append_bar {key : List Char} (hk : '|' ∉ key) (piece rest : List Char) :
    afterKey? key (piece ++ '|' :: rest) = (afterKey? key piece).map (· ++ '|' :: rest) := by
  induction key generalizing piece with
  | nil => simp [afterKey?]
  | cons k ks ih =>
    rw [List.mem_cons, not_or] at hk
    cases piece with
    | nil =>
      have hne : '|' ≠ k.toLower := fun h => hk.1 (Text.eq_of_toLower_eq (by decide) h.symm).symm
      simp [afterKey?, hne]
    | cons c cs =>
      rw [List.cons_append, afterKey?, afterKey?, ih hk.2]
      by_cases h : c.toLower = k.toLower <;> simp [h]

/-- A value that begins in a piece is the rest of the piece. -/
lemma value?_append_bar {key piece : List Char} (hk : '|' ∉ key) (hp : '|' ∉ piece)
    (rest : List Char) :
    value? key (piece ++ '|' :: rest) =
      if startsWithKey key piece then some (piece.drop (key.length + 1), rest) else none := by
  have hkey : '|' ∉ key ++ ['='] := by simp [hk]
  rw [value?, afterKey?_append_bar hkey, afterKey?_eq_ite]
  by_cases h : startsWithKey key piece
  · have hv : ∀ c ∈ piece.drop (key.length + 1), decide (c ≠ '|') = true := by
      intro c hc
      exact decide_eq_true fun e => hp (e ▸ List.mem_of_mem_drop hc)
    simp only [h, if_true, Option.map_some, List.takeWhile_append_of_pos hv,
      List.dropWhile_append_of_pos hv]
    simp
  · simp [h]

/-- The scan goes on behind a value that was found. -/
lemma values_of_value? {key text v rest : List Char} (h : value? key text = some (v, rest))
    (hne : text ≠ []) : values key text = v :: values key rest := by
  obtain ⟨c, r, rfl⟩ := List.exists_cons_of_ne_nil hne
  rw [values]
  split
  next v' rest' h' =>
    rw [h] at h'
    cases h'
    rfl
  next h' => rw [h] at h'; cases h'

/-- The scan goes on one character further where no value is found. -/
lemma values_cons_of_value? {key r : List Char} {c : Char} (h : value? key (c :: r) = none) :
    values key (c :: r) = values key r := by
  rw [values]
  split
  next v' rest' h' => rw [h] at h'; cases h'
  next => rfl

/-- The scan up to the end of a piece finds what follows the first place of the key in it. -/
lemma values_piece {key piece : List Char} (hk : '|' ∉ key) (hp : '|' ∉ piece)
    (rest : List Char) :
    values key (piece ++ '|' :: rest) = (afterFirst? key piece).toList ++ values key rest := by
  induction piece with
  | nil =>
    have hs : startsWithKey key [] = false := by simp [startsWithKey]
    have hv := value?_append_bar hk hp rest
    rw [hs, if_neg (by simp), List.nil_append] at hv
    rw [List.nil_append, values_cons_of_value? hv]
    simp [afterFirst?, hs]
  | cons c cs ih =>
    have hcs : '|' ∉ cs := fun h => hp (List.mem_cons_of_mem c h)
    have hv := value?_append_bar hk hp rest
    rw [List.cons_append] at hv ⊢
    by_cases h : startsWithKey key (c :: cs)
    · rw [if_pos h] at hv
      rw [values_of_value? hv (by simp)]
      simp [afterFirst?, h]
    · rw [if_neg h] at hv
      have hf : afterFirst? key (c :: cs) = afterFirst? key cs := by
        simp [afterFirst?, h]
      rw [values_cons_of_value? hv, hf, ih hcs]

/-! ### The scan of whole texts -/

/-- The pieces between bars hold no bar. -/
lemma not_mem_of_mem_splitOn {text piece : List Char} (h : piece ∈ text.splitOn '|') :
    '|' ∉ piece := by
  induction text generalizing piece with
  | nil =>
    rw [List.splitOn_nil, List.mem_singleton] at h
    simp [h]
  | cons c cs ih =>
    rw [List.splitOn_cons_eq_if_modifyHead] at h
    obtain ⟨p, ps, hps⟩ := List.exists_cons_of_ne_nil (List.splitOn_ne_nil '|' cs)
    rw [hps] at h ih
    split at h
    · rcases List.mem_cons.1 h with rfl | h
      · simp
      · exact ih h
    next hc =>
      rcases List.mem_cons.1 h with rfl | h
      · have hne : '|' ≠ c := fun e => hc (beq_iff_eq.2 e.symm)
        simp [hne, ih List.mem_cons_self]
      · exact ih (List.mem_cons_of_mem p h)

/-- The scan of pieces that end with bars finds their values one piece after the other. -/
lemma values_intercalate {key : List Char} (hk : '|' ∉ key) (rest : List Char) :
    ∀ ps : List (List Char), (∀ p ∈ ps, '|' ∉ p) → ps ≠ [] →
      values key (['|'].intercalate ps ++ '|' :: rest) =
        ps.filterMap (afterFirst? key) ++ values key rest := by
  intro ps hps hne
  induction ps with
  | nil => exact absurd rfl hne
  | cons p ps ih =>
    have hp : '|' ∉ p := hps p List.mem_cons_self
    cases ps with
    | nil =>
      rw [List.intercalate_singleton, values_piece hk hp]
      cases h : afterFirst? key p <;> simp [h]
    | cons q qs =>
      have htail := ih (fun r hr => hps r (List.mem_cons_of_mem p hr)) (by simp)
      rw [List.intercalate_cons_of_ne_nil (by simp), List.append_assoc, List.append_assoc,
        List.singleton_append, values_piece hk hp, htail]
      cases h : afterFirst? key p <;> simp [h]

/-- The scan up to a bar finds the values of the pieces before it, in their order. -/
lemma values_append_bar {key : List Char} (hk : '|' ∉ key) (text rest : List Char) :
    values key (text ++ '|' :: rest) =
      (text.splitOn '|').filterMap (afterFirst? key) ++ values key rest := by
  have h := values_intercalate hk rest (text.splitOn '|')
    (fun p hp => not_mem_of_mem_splitOn hp) (List.splitOn_ne_nil '|' text)
  rwa [List.intercalate_splitOn] at h

end Field

/-- The name of a key holds no bar. -/
lemma FieldKey.bar_not_mem_name (key : FieldKey) : '|' ∉ key.name.toList := by
  cases key <;> decide

/-- The scan of two joined columns finds the values of their pieces. -/
lemma FieldKey.extract_combinedText (key : FieldKey) (textA textB : String) :
    key.extract (combinedText textA textB) = pieceValues key.name textA textB := by
  have hname : key.name ≠ "" := by cases key <;> decide
  have hk := key.bar_not_mem_name
  have hjoin : (combinedText textA textB).toList =
      textA.toList ++ '|' :: (textB.toList ++ '|' :: []) := by
    simp [combinedText]
  have hend : Field.values key.name.toList [] = [] := by rw [Field.values]
  rw [FieldKey.extract, Field.extract, if_neg hname, hjoin, Field.values_append_bar hk,
    Field.values_append_bar hk, hend, List.append_nil, ← List.filterMap_append]
  rfl

/-! ### The places of the slots -/

/-- The place of an element of one of several lists of one length, joined behind other elements. -/
lemma getElem?_append_flatMap {α β : Type} {f : α → List β} {n : ℕ} (hf : ∀ a, (f a).length = n)
    (front : List β) {l : List α} {i j : ℕ} {a : α} (hi : l[i]? = some a) (hj : j < n) :
    (front ++ l.flatMap f)[front.length + n * i + j]? = (f a)[j]? := by
  rw [Nat.add_assoc, List.getElem?_append_right (Nat.le_add_right _ _), Nat.add_sub_cancel_left]
  induction l generalizing i with
  | nil => simp at hi
  | cons b l ih =>
    cases i with
    | zero =>
      obtain rfl : b = a := by simpa using hi
      rw [List.flatMap_cons, Nat.mul_zero, Nat.zero_add,
        List.getElem?_append_left (by rw [hf]; exact hj)]
    | succ i =>
      have hindex : n * (i + 1) + j = (f b).length + (n * i + j) := by rw [hf]; ring
      rw [List.flatMap_cons, hindex, List.getElem?_append_right (Nat.le_add_right _ _),
        Nat.add_sub_cancel_left, ih (by simpa using hi)]

/-- The slots of a key stand side by side behind the other columns. -/
lemma Line.getElem?_cells (line : Line) {i j : ℕ} {key : FieldKey}
    (hi : FieldKey.all[i]? = some key) (hj : j < 5) :
    line.cells[6 + 5 * i + j]? = (line.slots key).toList[j]? := by
  rw [cells_eq_flatMap]
  exact getElem?_append_flatMap (fun key => (line.slots key).length_toList)
    [line.status.label, line.file, line.reference, line.customer, line.city, line.ctr] hi hj

/-- The header names the slots of a key by its label and their numbers. -/
lemma Report.getElem?_header {i j : ℕ} {key : FieldKey}
    (hi : FieldKey.all[i]? = some key) (hj : j < 5) :
    header[6 + 5 * i + j]? = some (key.label ++ " " ++ toString (j + 1)) := by
  have h := getElem?_append_flatMap
    (f := fun key : FieldKey =>
      (List.range slotCount).map fun i => key.label ++ " " ++ toString (i + 1))
    (n := 5) (fun _ => by simp [slotCount])
    ["Status", "File name", "Ref No", "Customer Name", "City", "CTR"] hi hj
  rw [List.getElem?_map, List.getElem?_range (by exact hj)] at h
  rw [header_eq_flatMap]
  exact h

/-- A slot shows the value of its number, or nothing. -/
lemma Slots.getElem?_toList_ofList (values : List String) {j : ℕ} (hj : j < 5) :
    (Slots.ofList (values.take slotCount)).toList[j]? = some (values.getD j "") := by
  have hslot : j < slotCount := hj
  rw [Slots.ofList, Vector.toList_ofFn, List.getElem?_ofFn, dif_pos hslot, List.getD_eq_getElem?_getD,
    List.getD_eq_getElem?_getD, List.getElem?_take_of_lt hslot]

/-! ### What a line shows -/

/-- The value of a key is a part of one of the pieces. -/
lemma Field.infix_of_afterFirst? {key piece value : List Char}
    (h : afterFirst? key piece = some value) : value <:+: piece := by
  obtain ⟨tail, htail, rfl⟩ := Option.map_eq_some_iff.1 h
  have hsuffix := (List.mem_tails _ _).1 (List.mem_of_find?_eq_some htail)
  exact ((List.drop_suffix _ _).trans hsuffix).isInfix

/-- Trimming takes a part of a text. -/
lemma Text.trim_infix (text : String) : (trim text).toList <:+: text.toList := by
  have hend (cs : List Char) : trimEnd cs <+: cs := by
    rw [trimEnd, ← List.reverse_suffix, List.reverse_reverse]
    exact List.dropWhile_suffix isSpace
  rw [toList_trim]
  exact (hend _).isInfix.trans (List.dropWhile_suffix isSpace).isInfix

/-- A value is a trimmed part of a piece of one of the two columns, and not empty. -/
lemma of_mem_pieceValues {name textA textB value : String}
    (h : value ∈ pieceValues name textA textB) :
    value ≠ "" ∧ Text.trim value = value ∧
      ((∃ piece ∈ pieces textA, value.toList <:+: piece) ∨
        ∃ piece ∈ pieces textB, value.toList <:+: piece) := by
  rw [pieceValues, List.mem_filter, List.mem_map] at h
  obtain ⟨⟨found, hfound, rfl⟩, hne⟩ := h
  obtain ⟨piece, hpiece, hafter⟩ := List.mem_filterMap.1 hfound
  have hpart : (Text.trim (String.ofList found)).toList <:+: piece := by
    have htrim := Text.trim_infix (String.ofList found)
    rw [String.toList_ofList] at htrim
    exact htrim.trans (Field.infix_of_afterFirst? hafter)
  refine ⟨by simpa using hne, Text.trim_trim _, ?_⟩
  rcases List.mem_append.1 hpiece with hA | hB
  · exact .inl ⟨piece, hA, hpart⟩
  · exact .inr ⟨piece, hB, hpart⟩

/-- The slots of the `i`-th key, which search texts write as `name` and the header as `label`: they
hold the values of the key in their order, and the header numbers them. -/
structure Line.ShowsKey (line : Line) (i : ℕ) (name label textA textB : String) : Prop where
  header : ∀ j < 5, Report.header[6 + 5 * i + j]? = some (label ++ " " ++ toString (j + 1))
  slot : ∀ j < 5, line.cells[6 + 5 * i + j]? = some ((pieceValues name textA textB).getD j "")

/-- What a line shows of the search texts of two columns: the values of each of the three keys. -/
structure Line.Shows (line : Line) (textA textB : String) : Prop where
  width : line.cells.length = 21
  matchNames : line.ShowsKey 0 "MatchName" "RPL" textA textB
  denialTypes : line.ShowsKey 1 "DenialType" "Denial Type" textA textB
  splitIds : line.ShowsKey 2 "SPLID" "Splid" textA textB
  /-- No value holds a bar or is made of both columns. -/
  part : ∀ i j text, i < 3 → j < 5 → line.cells[6 + 5 * i + j]? = some text → text ≠ "" →
    '|' ∉ text.toList ∧ Text.trim text = text ∧
      ((∃ piece ∈ pieces textA, text.toList <:+: piece) ∨
        ∃ piece ∈ pieces textB, text.toList <:+: piece)
  /-- No empty slot stands before a filled one. -/
  filled : ∀ i j j', i < 3 → j ≤ j' → j' < 5 → line.cells[6 + 5 * i + j]? = some "" →
    line.cells[6 + 5 * i + j']? = some ""

/-- What stands at a place of a list, if it is anything, is a member. -/
lemma mem_of_getD_eq {values : List String} {j : ℕ} {text : String}
    (h : values.getD j "" = text) (hne : text ≠ "") : text ∈ values := by
  rw [List.getD_eq_getElem?_getD] at h
  cases hv : values[j]? with
  | none =>
    rw [hv] at h
    exact absurd h.symm hne
  | some value =>
    rw [hv] at h
    obtain rfl : value = text := h
    exact List.mem_of_getElem? hv

/-- A list without empty texts has nothing behind a place where it has nothing. -/
lemma getD_eq_empty_of_le {values : List String} (hvalues : ∀ value ∈ values, value ≠ "")
    {j j' : ℕ} (hle : j ≤ j') (h : values.getD j "" = "") : values.getD j' "" = "" := by
  have hlength : values.length ≤ j := by
    by_contra hlt
    rw [List.getD_eq_getElem _ _ (by omega)] at h
    exact hvalues _ (List.getElem_mem _) h
  exact List.getD_eq_default _ _ (hlength.trans hle)

/-- The slots of a key that are filled with the values of the pieces show them. -/
lemma Line.showsKey_of_slots {line : Line} {i : ℕ} {key : FieldKey} {textA textB : String}
    (hi : FieldKey.all[i]? = some key)
    (h : line.slots key = Slots.ofList ((pieceValues key.name textA textB).take slotCount)) :
    line.ShowsKey i key.name key.label textA textB where
  header _ hj := Report.getElem?_header hi hj
  slot j hj := by rw [line.getElem?_cells hi hj, h, Slots.getElem?_toList_ofList _ hj]

namespace Line.ShowsKey

variable {line : Line} {i j j' : ℕ} {name label textA textB text : String}

/-- A text in one of the slots of a key is a trimmed part of a piece, and no bar is in it. -/
lemma part (h : line.ShowsKey i name label textA textB) (hj : j < 5)
    (htext : line.cells[6 + 5 * i + j]? = some text) (hne : text ≠ "") :
    '|' ∉ text.toList ∧ Text.trim text = text ∧
      ((∃ piece ∈ pieces textA, text.toList <:+: piece) ∨
        ∃ piece ∈ pieces textB, text.toList <:+: piece) := by
  rw [h.slot j hj, Option.some_inj] at htext
  obtain ⟨-, htrim, hpart⟩ := of_mem_pieceValues (mem_of_getD_eq htext hne)
  refine ⟨fun hbar => ?_, htrim, hpart⟩
  -- a bar of the value would stand in its piece, and pieces have none
  rcases hpart with ⟨piece, hpiece, hin⟩ | ⟨piece, hpiece, hin⟩
  · exact Field.not_mem_of_mem_splitOn hpiece (hin.subset hbar)
  · exact Field.not_mem_of_mem_splitOn hpiece (hin.subset hbar)

/-- Behind an empty slot of a key the others are empty. -/
lemma filled (h : line.ShowsKey i name label textA textB) (hle : j ≤ j') (hj' : j' < 5)
    (hempty : line.cells[6 + 5 * i + j]? = some "") :
    line.cells[6 + 5 * i + j']? = some "" := by
  rw [h.slot j (by omega), Option.some_inj] at hempty
  rw [h.slot j' hj', Option.some_inj]
  exact getD_eq_empty_of_le (fun value hvalue => (of_mem_pieceValues hvalue).1) hle hempty

end Line.ShowsKey

/-- A line whose slots are filled with the values of the pieces shows them. -/
lemma Line.shows_of_slots {line : Line} {textA textB : String}
    (h : ∀ key, line.slots key = Slots.ofList ((pieceValues key.name textA textB).take slotCount)) :
    line.Shows textA textB := by
  have hkey : ∀ i < 3, ∃ name label, line.ShowsKey i name label textA textB := fun i hi =>
    ⟨_, _, showsKey_of_slots (List.getElem?_eq_getElem (by exact hi)) (h FieldKey.all[i])⟩
  refine ⟨line.length_cells, showsKey_of_slots rfl (h .matchName),
    showsKey_of_slots rfl (h .denialType), showsKey_of_slots rfl (h .splitId), ?_, ?_⟩
  · intro i j text hi hj htext hne
    obtain ⟨name, label, hshows⟩ := hkey i hi
    exact hshows.part hj htext hne
  · intro i j j' hi hle hj' hempty
    obtain ⟨name, label, hshows⟩ := hkey i hi
    exact hshows.filled hle hj' hempty

/-- **The slots of a line.** A row that is not blank becomes a line of 21 texts. The slots of each of
the three keys hold the values of the pieces of its two search texts, each under its name in the
header. -/
theorem Line.ofRow?_shows_pieces (row : Row) (criteria : Criteria) (h : row.isBlank = false) :
    ∃ line, ofRow? row criteria = some line ∧ line.Shows (row.get 22) (row.get 26) := by
  rw [ofRow?, if_neg (by rw [h]; exact Bool.false_ne_true)]
  refine ⟨_, rfl, shows_of_slots fun key => ?_⟩
  rw [← FieldKey.extract_combinedText]
  cases key <;> rfl

/-- A row whose first search text ends in an open value and whose second one begins like the end of
a key. -/
def brokenKeyRow : Row :=
  List.replicate 22 .empty ++
    [.text " xSplid=a|splid=SPLID=b|SPLID= |MatchName=M|Match", .empty, .empty, .empty,
      .text "Name=N|SPLID= c "]

/-- The slots of a row with repeated, empty and open values and a key cut in two. -/
theorem brokenKeyRow_shows_pieces :
    brokenKeyRow.isBlank = false ∧
      (∃ line, Line.ofRow? brokenKeyRow .empty = some line ∧
        line.Shows (brokenKeyRow.get 22) (brokenKeyRow.get 26)) ∧
      pieceValues "SPLID" (brokenKeyRow.get 22) (brokenKeyRow.get 26) = ["a", "SPLID=b", "c"] ∧
      pieceValues "MatchName" (brokenKeyRow.get 22) (brokenKeyRow.get 26) = ["M"] := by
  have h : brokenKeyRow.isBlank = false := by decide
  exact ⟨h, Line.ofRow?_shows_pieces brokenKeyRow .empty h, by decide, by decide⟩

end Screening
