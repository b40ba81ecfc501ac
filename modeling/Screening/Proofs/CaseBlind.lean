/-
Statuses do not see case.

A status depends on the texts of a customer through their uppercases alone, on the city only as far
as it is blank, and on the criteria through the uppercases of the entries that are not blank. So two
screenings that agree in these have the same outcome. As the uppercase of an uppercase is the same
text, and blank exactly if the text is, every text and every entry can be put in uppercase and every
blank entry left out.

* `Subject.Alike`, `Criteria.Alike`: what two screenings have to agree in.
* `Subject.status_eq_of_alike`: the outcome is then the same.
* `Line.ofRow?_eq_of_alike`: criteria that agree give a row the same line.
* `Subject.status_ignores_case`: the law, and uppercases and blank entries as instances of it.
-/
import Mathlib.Data.Set.Basic
import Screening.Proofs.Markers
import Screening.Proofs.Uppercase
import Screening.Report.Line

namespace Screening

/-! ### Criteria that agree -/

namespace EntrySet

/-- The uppercases of the entries that are not blank. -/
def folds (set : EntrySet) : Set String :=
  {text | ∃ entry ∈ set, Text.isBlank entry = false ∧ Text.fold entry = text}

/-- The set of the uppercases of all entries. -/
def uppercase (set : EntrySet) : EntrySet :=
  .ofList (set.toList.map Text.fold)

/-- The entries that are not blank. -/
def withoutBlank (set : EntrySet) : EntrySet :=
  ⟨set.toList.filter (!Text.isBlank ·), set.increasing.filter _⟩

lemma folds_uppercase (set : EntrySet) : set.uppercase.folds = set.folds := by
  ext text
  constructor
  · rintro ⟨upper, hupper, hblank, rfl⟩
    obtain ⟨entry, hentry, rfl⟩ := List.mem_map.1 (mem_ofList.1 hupper)
    rw [Text.isBlank_fold] at hblank
    exact ⟨entry, hentry, hblank, (Text.fold_fold entry).symm⟩
  · rintro ⟨entry, hentry, hblank, rfl⟩
    refine ⟨Text.fold entry, mem_ofList.2 (List.mem_map_of_mem hentry), ?_, Text.fold_fold entry⟩
    rw [Text.isBlank_fold, hblank]

lemma mem_withoutBlank {set : EntrySet} {entry : String} :
    entry ∈ set.withoutBlank ↔ entry ∈ set ∧ Text.isBlank entry = false := by
  simp [mem_def, withoutBlank]

lemma folds_withoutBlank (set : EntrySet) : set.withoutBlank.folds = set.folds := by
  ext text
  constructor
  · rintro ⟨entry, hentry, hblank, htext⟩
    exact ⟨entry, (mem_withoutBlank.1 hentry).1, hblank, htext⟩
  · rintro ⟨entry, hentry, hblank, htext⟩
    exact ⟨entry, mem_withoutBlank.2 ⟨hentry, hblank⟩, hblank, htext⟩

/-- Of the entries that are not blank the uppercases are all that counts. -/
lemma mem_uppercase_withoutBlank {set : EntrySet} {text : String} :
    text ∈ set.withoutBlank.uppercase ↔ text ∈ set.folds := by
  rw [uppercase, mem_ofList, List.mem_map]
  constructor
  · rintro ⟨entry, hentry, htext⟩
    obtain ⟨hmem, hblank⟩ := mem_withoutBlank.1 hentry
    exact ⟨entry, hmem, hblank, htext⟩
  · rintro ⟨entry, hmem, hblank, htext⟩
    exact ⟨entry, mem_withoutBlank.2 ⟨hmem, hblank⟩, htext⟩

lemma uppercase_withoutBlank_eq_iff {s t : EntrySet} :
    s.withoutBlank.uppercase = t.withoutBlank.uppercase ↔ s.folds = t.folds := by
  constructor
  · intro h
    ext text
    rw [← mem_uppercase_withoutBlank, h, mem_uppercase_withoutBlank]
  · intro h
    refine ext fun text => ?_
    rw [mem_uppercase_withoutBlank, mem_uppercase_withoutBlank, h]

end EntrySet

namespace Criteria

/-- The keywords, and the codes, of two criteria have the same uppercases, blank entries apart. -/
structure Alike (c d : Criteria) : Prop where
  keywords : c.keywords.folds = d.keywords.folds
  codes : c.codes.folds = d.codes.folds

/-- The criteria with every entry in uppercase. -/
def uppercase (criteria : Criteria) : Criteria :=
  ⟨criteria.keywords.uppercase, criteria.codes.uppercase⟩

/-- The criteria without their blank entries. -/
def withoutBlank (criteria : Criteria) : Criteria :=
  ⟨criteria.keywords.withoutBlank, criteria.codes.withoutBlank⟩

lemma Alike.refl (c : Criteria) : c.Alike c :=
  ⟨rfl, rfl⟩

lemma alike_uppercase (c : Criteria) : c.uppercase.Alike c :=
  ⟨c.keywords.folds_uppercase, c.codes.folds_uppercase⟩

lemma alike_withoutBlank (c : Criteria) : c.withoutBlank.Alike c :=
  ⟨c.keywords.folds_withoutBlank, c.codes.folds_withoutBlank⟩

/-- Criteria agree exactly if they become the same without blank entries and in uppercase. -/
lemma alike_iff {c d : Criteria} :
    c.Alike d ↔ c.withoutBlank.uppercase = d.withoutBlank.uppercase := by
  rw [uppercase, uppercase, mk.injEq]
  constructor
  · rintro ⟨hkeywords, hcodes⟩
    exact ⟨EntrySet.uppercase_withoutBlank_eq_iff.2 hkeywords,
      EntrySet.uppercase_withoutBlank_eq_iff.2 hcodes⟩
  · rintro ⟨hkeywords, hcodes⟩
    exact ⟨EntrySet.uppercase_withoutBlank_eq_iff.1 hkeywords,
      EntrySet.uppercase_withoutBlank_eq_iff.1 hcodes⟩

instance (c d : Criteria) : Decidable (c.Alike d) :=
  decidable_of_iff _ alike_iff.symm

/-- A name contains a keyword exactly if its uppercase holds one of the uppercases. -/
lemma names_iff_folds {c : Criteria} {customer : String} :
    c.Names customer ↔
      ∃ text ∈ c.keywords.folds, text.toList <:+: (Text.fold customer).toList := by
  constructor
  · rintro ⟨keyword, hkeyword, hspace, hin⟩
    exact ⟨_, ⟨keyword, hkeyword, Text.isBlank_eq_false_iff.2 hspace, rfl⟩, hin⟩
  · rintro ⟨_, ⟨keyword, hkeyword, hblank, rfl⟩, hin⟩
    exact ⟨keyword, hkeyword, Text.isBlank_eq_false_iff.1 hblank, hin⟩

/-- A code is an approved one exactly if its uppercase is one of the uppercases. -/
lemma clears_iff_folds {c : Criteria} {ctr : String} :
    c.Clears ctr ↔ Text.fold ctr ∈ c.codes.folds := by
  constructor
  · rintro ⟨code, hcode, hspace, htext⟩
    exact ⟨code, hcode, Text.isBlank_eq_false_iff.2 hspace, htext⟩
  · rintro ⟨code, hcode, hblank, htext⟩
    exact ⟨code, hcode, Text.isBlank_eq_false_iff.1 hblank, htext⟩

lemma Alike.isHighRisk_eq {c d : Criteria} (h : c.Alike d) {name name' : String}
    (hname : Text.fold name = Text.fold name') : c.isHighRisk name = d.isHighRisk name' := by
  rw [Bool.eq_iff_iff, isHighRisk_iff_names, isHighRisk_iff_names, names_iff_folds, names_iff_folds,
    h.keywords, hname]

lemma Alike.isApproved_eq {c d : Criteria} (h : c.Alike d) {ctr ctr' : String}
    (hctr : Text.fold ctr = Text.fold ctr') : c.isApproved ctr = d.isApproved ctr' := by
  rw [Bool.eq_iff_iff, isApproved_iff_clears, isApproved_iff_clears, clears_iff_folds,
    clears_iff_folds, h.codes, hctr]

end Criteria

/-! ### Customers that agree -/

namespace Subject

/-- The texts of two customers have the same uppercases; of the cities it only counts whether they
are blank. -/
structure Alike (s t : Subject) : Prop where
  customer : Text.fold s.customer = Text.fold t.customer
  ctr : Text.fold s.ctr = Text.fold t.ctr
  city : Text.isBlank s.city = Text.isBlank t.city
  textA : Text.fold s.textA = Text.fold t.textA
  textB : Text.fold s.textB = Text.fold t.textB

/-- The customer with every text in uppercase. -/
def uppercase (subject : Subject) : Subject where
  customer := Text.fold subject.customer
  ctr := Text.fold subject.ctr
  city := Text.fold subject.city
  textA := Text.fold subject.textA
  textB := Text.fold subject.textB

lemma Alike.refl (s : Subject) : s.Alike s :=
  ⟨rfl, rfl, rfl, rfl, rfl⟩

lemma alike_uppercase (s : Subject) : s.uppercase.Alike s where
  customer := Text.fold_fold s.customer
  ctr := Text.fold_fold s.ctr
  city := Text.isBlank_fold s.city
  textA := Text.fold_fold s.textA
  textB := Text.fold_fold s.textB

variable {s t : Subject}

lemma Alike.folded_eq (h : s.Alike t) : s.folded = t.folded := by
  simp only [folded, Text.fold_append, h.textA, h.textB]

lemma Alike.markerStatus?_eq (h : s.Alike t) : s.markerStatus? = t.markerStatus? := by
  simp only [markerStatus?, hasMarker, h.folded_eq]

/-- A code is blank exactly if its uppercase is. -/
lemma Alike.isBlank_ctr_eq (h : s.Alike t) : Text.isBlank s.ctr = Text.isBlank t.ctr := by
  rw [← Text.isBlank_fold s.ctr, h.ctr, Text.isBlank_fold]

/-- Customers that agree have the same status under criteria that agree. -/
lemma status_eq_of_alike {c d : Criteria} (hs : s.Alike t) (hc : c.Alike d) :
    s.status c = t.status d := by
  rw [status, status, hc.isHighRisk_eq hs.customer, hc.isApproved_eq hs.ctr, hs.markerStatus?_eq,
    hs.city, hs.isBlank_ctr_eq]

end Subject

/-! ### Rows -/

/-- The cell with its text in uppercase. -/
def Cell.uppercase : Cell → Cell
  | .text s => .text (Text.fold s)
  | cell => cell

/-- The row with all texts in uppercase. -/
def Row.uppercase (row : Row) : Row :=
  row.map Cell.uppercase

lemma Row.isBlank_uppercase (row : Row) : row.uppercase.isBlank = row.isBlank := by
  have hcell (cell : Cell) : cell.uppercase.isBlank = cell.isBlank := by
    cases cell with
    | text s => exact Text.isBlank_fold s
    | _ => rfl
  rw [isBlank, uppercase, List.all_map, isBlank]
  congr 1
  exact funext hcell

/-- The text of a column has the same uppercase. -/
lemma Row.fold_get_uppercase (row : Row) (column : ℕ) :
    Text.fold (row.uppercase.get column) = Text.fold (row.get column) := by
  rw [get, uppercase, List.getElem?_map, get]
  cases row[column]? with
  | none => rfl
  | some cell =>
    cases cell with
    | text s =>
      show Text.fold (Text.trim (Text.fold s)) = Text.fold (Text.trim s)
      rw [Text.trim_fold, Text.fold_fold]
    | _ => rfl

/-- Of a row in uppercase the same customer is read, case ignored. -/
lemma Subject.alike_ofRow_uppercase (row : Row) :
    (Subject.ofRow row.uppercase).Alike (Subject.ofRow row) where
  customer := row.fold_get_uppercase _
  ctr := row.fold_get_uppercase _
  city := by
    show Text.isBlank (row.uppercase.get Column.city) = Text.isBlank (row.get Column.city)
    rw [← Text.isBlank_fold, row.fold_get_uppercase, Text.isBlank_fold]
  textA := row.fold_get_uppercase _
  textB := row.fold_get_uppercase _

/-- A line shows the status of the customer of its row. -/
lemma Line.map_status_ofRow? (row : Row) (c : Criteria) :
    (ofRow? row c).map (·.status) =
      if row.isBlank then none else some ((Subject.ofRow row).status c) := by
  rw [ofRow?]
  split <;> rfl

/-- Criteria that agree give a row the same line. -/
lemma Line.ofRow?_eq_of_alike (row : Row) {c d : Criteria} (h : c.Alike d) :
    ofRow? row c = ofRow? row d := by
  have hstatus := Subject.status_eq_of_alike (.refl (Subject.ofRow row)) h
  simp only [ofRow?, hstatus]

/-- **Statuses do not see case.** Two customers whose names, codes and search texts have the same
uppercases and whose cities are both blank or both not have the same status, under any two criteria
whose keywords and whose codes have the same uppercases, blank entries apart. So every text and every
entry can be put in uppercase and every blank entry left out, of a customer and of a row. -/
theorem Subject.status_ignores_case :
    (∀ s t : Subject, ∀ c d : Criteria, s.Alike t → c.Alike d → s.status c = t.status d) ∧
    (∀ (s : Subject) (c : Criteria), s.uppercase.status c.uppercase = s.status c ∧
      s.uppercase.status c = s.status c ∧ s.status c.uppercase = s.status c ∧
      s.status c.withoutBlank = s.status c) ∧
    ∀ (row : Row) (c : Criteria),
      (Line.ofRow? row.uppercase c.uppercase).map (·.status) =
        (Line.ofRow? row c).map (·.status) ∧
      Line.ofRow? row c.uppercase = Line.ofRow? row c ∧
      Line.ofRow? row c.withoutBlank = Line.ofRow? row c := by
  refine ⟨fun s t c d => status_eq_of_alike, fun s c => ⟨?_, ?_, ?_, ?_⟩, fun row c => ⟨?_, ?_, ?_⟩⟩
  · exact status_eq_of_alike s.alike_uppercase c.alike_uppercase
  · exact status_eq_of_alike s.alike_uppercase (.refl c)
  · exact status_eq_of_alike (.refl s) c.alike_uppercase
  · exact status_eq_of_alike (.refl s) c.alike_withoutBlank
  · rw [Line.map_status_ofRow?, Line.map_status_ofRow?, row.isBlank_uppercase,
      status_eq_of_alike (alike_ofRow_uppercase row) c.alike_uppercase]
  · exact Line.ofRow?_eq_of_alike row c.alike_uppercase
  · exact Line.ofRow?_eq_of_alike row c.alike_withoutBlank

/-- A name with `ß` and one with `SS`, blank cities, a marker spoilt by `ẘ`, and criteria that are
written differently. -/
theorem Subject.status_ignores_case_strasse :
    let s : Subject := ⟨"Straße GmbH", "ru", " ", "zkẘd", "ZEMB"⟩
    let t : Subject := ⟨"STRASSE gmbh", "RU", "\t", "ZKẘD", "zemb"⟩
    let c : Criteria := ⟨.ofList ["aße g", " "], .ofList ["Ru"]⟩
    let d : Criteria := ⟨.ofList ["ASSE G"], .ofList ["RU", ""]⟩
    s.Alike t ∧ c.Alike d ∧ s.status c = t.status d ∧ s.status c = .highRisk := by
  intro s t c d
  have hs : s.Alike t := ⟨by decide, by decide, by decide, by decide, by decide⟩
  have hc : c.Alike d := by decide
  exact ⟨hs, hc, status_ignores_case.1 s t c d hs hc, by decide⟩

end Screening
