/-
Statuses of customers whose texts have white space at their ends.

A status reads the five texts of a customer as they are given. White space at their ends is lost to
the markers, which hold none, and to the test for a missing address. It counts for the other two rules:
a keyword that has white space at an end of its own may be found in a name only with the white space
around it, and a code with white space around it is not the approved one. So trimming the texts first
changes a status exactly if one of these happens. Under criteria whose entries are trimmed it is the
code alone; and of a row of a sheet all texts are read trimmed.

* `Text.infix_trim_iff`: a trimmed text occurs in a text exactly if it occurs in the trimmed one.
* `Text.trim_eq_of_fold_eq`: a text with the uppercase of a trimmed one is trimmed.
* `Subject.hasMarker_trimmed`: markers do not see white space at the ends.
* `Criteria.names_trim_iff`, `Criteria.clears_iff_of_isTrimmed`: the two rules under trimmed criteria.
* `Subject.status_trimmed_iff`: when trimming the texts leaves the status.
-/
import Screening.Proofs.CaseBlind
import Screening.Proofs.Severity
import Screening.Proofs.Trimmed

namespace Screening

/-! ### Occurrences in a trimmed text -/

namespace Text

/-- A list that start trimming leaves as it is begins with no white space. -/
lemma isSpace_eq_false_of_trimStart {c : Char} {cs : List Char}
    (h : trimStart (c :: cs) = c :: cs) : isSpace c = false := by
  have hhead := List.head?_dropWhile_not isSpace (c :: cs)
  rw [← trimStart, h] at hhead
  simpa using hhead

/-- What begins with no white space occurs behind the white space at the start. -/
lemma infix_trimStart_iff {part : List Char} (h : trimStart part = part) (cs : List Char) :
    part <:+: trimStart cs ↔ part <:+: cs := by
  refine ⟨fun hin => hin.trans (List.dropWhile_suffix isSpace).isInfix, fun hin => ?_⟩
  cases part with
  | nil => exact List.nil_infix
  | cons c part =>
    rw [← List.takeWhile_append_dropWhile (p := isSpace) (l := cs)] at hin
    refine infix_append_of_head_not_mem (fun hc => ?_) hin
    have hspace := List.all_eq_true.1 (List.all_takeWhile (p := isSpace) (l := cs)) c hc
    rw [isSpace_eq_false_of_trimStart h] at hspace
    cases hspace

/-- What ends with no white space occurs before the white space at the end. -/
lemma infix_trimEnd_iff {part : List Char} (h : trimEnd part = part) (cs : List Char) :
    part <:+: trimEnd cs ↔ part <:+: cs := by
  have hreverse : trimStart part.reverse = part.reverse := by
    rw [← List.reverse_inj, ← trimEnd, h, List.reverse_reverse]
  rw [trimEnd, ← List.reverse_infix, List.reverse_reverse, infix_trimStart_iff hreverse,
    List.reverse_infix]

/-- A trimmed text occurs in a text exactly if it occurs in the trimmed text. -/
lemma infix_trim_iff {part : String} (h : trim part = part) (text : String) :
    part.toList <:+: (trim text).toList ↔ part.toList <:+: text.toList := by
  rw [← String.toList_inj, toList_trim] at h
  have hend : trimEnd part.toList = part.toList := by rw [← h, trimEnd_trimEnd]
  have hstart : trimStart part.toList = part.toList := by
    rw [← h, trimStart_trimEnd, trimStart_trimStart]
  rw [toList_trim, infix_trimEnd_iff hend, infix_trimStart_iff hstart]

/-- No text is as long in uppercase as one that it is a proper part of. -/
lemma eq_of_infix_of_fold_eq {part text : String} (h : part.toList <:+: text.toList)
    (hfold : fold part = fold text) : part = text := by
  obtain ⟨front, back, htext⟩ := h
  rw [← String.toList_inj, toList_fold, toList_fold, ← htext, List.flatMap_append,
    List.flatMap_append] at hfold
  have hlength := congrArg List.length hfold
  simp only [List.length_append] at hlength
  have hnil : ∀ cs : List Char, (cs.flatMap upper).length = 0 → cs = [] := by
    intro cs hcs
    cases cs with
    | nil => rfl
    | cons c cs => simp [upper_ne_nil] at hcs
  rw [← String.toList_inj, ← htext, hnil front (by omega), hnil back (by omega)]
  simp

/-- A text with the uppercase of a trimmed text is trimmed. -/
lemma trim_eq_of_fold_eq {s t : String} (h : fold s = fold t) (ht : trim t = t) : trim s = s := by
  refine eq_of_infix_of_fold_eq ( trim_infix s) ?_
  calc fold (trim s)
      = trim (fold s) := (trim_fold s).symm
    _ = fold (trim t) := by rw [h, trim_fold]
    _ = fold s := by rw [ht, h]

/-- A trimmed text is blank exactly if the text is. -/
lemma isBlank_trim (s : String) : isBlank (trim s) = isBlank s := by
  rw [Bool.eq_iff_iff, ← trim_eq_empty_iff, trim_trim, trim_eq_empty_iff]

end Text

open Text (trim fold)

/-! ### Entries -/

namespace Criteria

variable {c : Criteria} {customer ctr : String}

/-- Criteria whose entries have no white space at their ends. -/
structure IsTrimmed (c : Criteria) : Prop where
  keywords : ∀ entry ∈ c.keywords, trim entry = entry
  codes : ∀ entry ∈ c.codes, trim entry = entry

/-- A keyword of the trimmed name is one of the name. -/
lemma names_of_names_trim (h : c.Names (trim customer)) : c.Names customer := by
  obtain ⟨keyword, hkeyword, hspace, hin⟩ := h
  refine ⟨keyword, hkeyword, hspace, hin.trans ?_⟩
  rw [← Text.trim_fold]
  exact Text.trim_infix _

/-- A name that is only found with the white space at its ends is found by a keyword that has white
space at an end of its own. -/
lemma exists_padded_of_names (h : c.Names customer) (htrim : ¬c.Names (trim customer)) :
    ∃ keyword ∈ c.keywords, trim keyword ≠ keyword := by
  obtain ⟨keyword, hkeyword, hspace, hin⟩ := h
  refine ⟨keyword, hkeyword, fun hpadded => htrim ⟨keyword, hkeyword, hspace, ?_⟩⟩
  have hfold : trim (fold keyword) = fold keyword := by rw [Text.trim_fold, hpadded]
  rwa [← Text.trim_fold, Text.infix_trim_iff hfold]

/-- Trimmed keywords do not see white space at the ends of a name. -/
lemma names_trim_iff (hc : c.IsTrimmed) : c.Names (trim customer) ↔ c.Names customer := by
  refine ⟨names_of_names_trim, fun h => ?_⟩
  by_contra htrim
  obtain ⟨keyword, hkeyword, hpadded⟩ := exists_padded_of_names h htrim
  exact hpadded (hc.keywords keyword hkeyword)

/-- A trimmed code approves a code exactly if it approves the trimmed one and that is the code. -/
lemma clears_iff_of_isTrimmed (hc : c.IsTrimmed) :
    c.Clears ctr ↔ trim ctr = ctr ∧ c.Clears (trim ctr) := by
  constructor
  · intro h
    have htrim : trim ctr = ctr := by
      obtain ⟨code, hcode, -, hfold⟩ := h
      exact Text.trim_eq_of_fold_eq hfold.symm (hc.codes code hcode)
    exact ⟨htrim, by rwa [htrim]⟩
  · rintro ⟨htrim, h⟩
    rwa [htrim] at h

end Criteria

/-! ### Customers -/

namespace Subject

variable (s : Subject)

/-- The customer with every text trimmed. -/
def trimmed : Subject where
  customer := trim s.customer
  ctr := trim s.ctr
  city := trim s.city
  textA := trim s.textA
  textB := trim s.textB

/-- A marker is found in one of the texts. -/
lemma hasMarker_iff_infix {marker : String} (h : ' ' ∉ marker.toList) :
    s.hasMarker marker = true ↔
      marker.toList <:+: (fold s.textA).toList ∨ marker.toList <:+: (fold s.textB).toList := by
  have hfolded : s.folded.toList = (fold s.textA).toList ++ ' ' :: (fold s.textB).toList := by
    rw [folded, Text.fold_append, Text.fold_append, String.toList_append, String.toList_append,
      show (fold " ").toList = [' '] by decide, List.append_assoc, List.singleton_append]
  rw [hasMarker, Text.occurs, Text.occursIn_iff_infix, hfolded, Text.infix_append_cons_iff h]

/-- Markers do not see white space at the ends of the texts. -/
lemma hasMarker_trimmed {marker : String} (h : ' ' ∉ marker.toList) (htrim : trim marker = marker) :
    s.trimmed.hasMarker marker = s.hasMarker marker := by
  rw [Bool.eq_iff_iff, hasMarker_iff_infix _ h, hasMarker_iff_infix _ h]
  show marker.toList <:+: (fold (trim s.textA)).toList ∨ _ <:+: (fold (trim s.textB)).toList ↔ _
  rw [← Text.trim_fold, ← Text.trim_fold, Text.infix_trim_iff htrim, Text.infix_trim_iff htrim]

/-- Without criteria the status does not see white space at the ends of the texts. -/
lemma status_empty_trimmed : s.trimmed.status .empty = s.status .empty := by
  rw [status_empty, status_empty, markerStatus?, markerStatus?,
    s.hasMarker_trimmed (by decide) (by decide), s.hasMarker_trimmed (by decide) (by decide)]
  show Option.getD _ (if Text.isBlank (trim s.city) && Text.isBlank (trim s.ctr) then _ else _) = _
  rw [Text.isBlank_trim, Text.isBlank_trim]

/-- The status without criteria is none that a rule of the criteria gives. -/
lemma status_empty_ne_approved : s.status .empty ≠ .approved := by
  rw [status_empty, markerStatus?]
  cases s.hasMarker "ZKWD" <;> cases s.hasMarker "ZEMB" <;>
    cases Text.isBlank s.city && Text.isBlank s.ctr <;> decide

lemma status_empty_ne_highRisk : s.status .empty ≠ .highRisk := by
  intro h
  have hle := s.approved_le_status_empty
  rw [h] at hle
  exact absurd hle (by decide)

/-- The rules read the trimmed name and the trimmed code; the rest does not see white space. -/
lemma status_trimmed (c : Criteria) :
    s.trimmed.status c =
      if c.isHighRisk (trim s.customer) then .highRisk
      else if c.isApproved (trim s.ctr) then .approved
      else s.status .empty := by
  rw [status_eq_ite, status_empty_trimmed]
  rfl

/-- Trimming the texts leaves the status exactly if it leaves the outcome of both rules, that for the
codes only where the name does not decide. -/
lemma status_trimmed_eq_iff (c : Criteria) :
    s.trimmed.status c = s.status c ↔
      (c.Names s.customer → c.Names (trim s.customer)) ∧
        (c.Names s.customer ∨ (c.Clears (trim s.ctr) ↔ c.Clears s.ctr)) := by
  have happroved := s.status_empty_ne_approved
  have hhighRisk := s.status_empty_ne_highRisk
  have hmono : c.isHighRisk (trim s.customer) = true → c.isHighRisk s.customer = true := by
    rw [c.isHighRisk_iff_names, c.isHighRisk_iff_names]
    exact Criteria.names_of_names_trim
  rw [status_trimmed, s.status_eq_ite c, ← c.isHighRisk_iff_names, ← c.isHighRisk_iff_names,
    ← c.isApproved_iff_clears, ← c.isApproved_iff_clears]
  cases hname : c.isHighRisk s.customer with
  | true =>
    cases c.isHighRisk (trim s.customer) with
    | true => simp
    | false =>
      -- whatever the code, the trimmed customer does not get the first status
      cases c.isApproved (trim s.ctr) <;> simp [hhighRisk]
  | false =>
    have hname' : c.isHighRisk (trim s.customer) = false := by
      rw [Bool.eq_false_iff]
      intro h
      rw [hmono h] at hname
      cases hname
    rw [hname']
    cases c.isApproved s.ctr <;> cases c.isApproved (trim s.ctr) <;>
      simp [happroved, happroved.symm]

/-- Under trimmed criteria trimming the texts changes a status exactly if the name decides nothing and
the code becomes an approved one. -/
lemma status_trimmed_eq_iff_of_isTrimmed {c : Criteria} (hc : c.IsTrimmed) :
    s.trimmed.status c = s.status c ↔
      c.Names s.customer ∨ trim s.ctr = s.ctr ∨ ¬c.Clears (trim s.ctr) := by
  have hclears : c.Clears s.ctr ↔ trim s.ctr = s.ctr ∧ c.Clears (trim s.ctr) :=
    Criteria.clears_iff_of_isTrimmed hc
  rw [status_trimmed_eq_iff, Criteria.names_trim_iff hc, hclears, and_iff_right id, iff_and_self,
    imp_iff_or_not]

/-- The city and the search texts are read as if they were trimmed. -/
lemma status_trimmed_texts (c : Criteria) :
    { s with city := trim s.city, textA := trim s.textA, textB := trim s.textB : Subject }.status c =
      s.status c := by
  let t : Subject := { s with city := trim s.city, textA := trim s.textA, textB := trim s.textB }
  have htrimmed : t.trimmed = s.trimmed := by simp [t, trimmed, Text.trim_trim]
  have hempty : t.status .empty = s.status .empty := by
    rw [← t.status_empty_trimmed, htrimmed, s.status_empty_trimmed]
  show t.status c = s.status c
  rw [t.status_eq_ite, s.status_eq_ite c, hempty]

/-- What is read of a row is trimmed. -/
lemma trimmed_ofRow (row : Row) : (ofRow row).trimmed = ofRow row := by
  rw [trimmed, ofRow]
  simp only [Row.trim_get]

/-- **White space at the ends of the texts.** Trimming the texts of a customer leaves the status
exactly if the name still holds a keyword where it did, and, where the name holds none, the code is
approved as it was before. Under trimmed criteria the status is changed exactly if the name holds no
keyword and a code with white space at an end becomes an approved one. The city and the search texts
never matter, and of a row all texts are read trimmed. -/
theorem trimming_leaves_status_iff (s : Subject) (c : Criteria) :
    (s.trimmed.status c = s.status c ↔
      (c.Names s.customer → c.Names (trim s.customer)) ∧
        (c.Names s.customer ∨ (c.Clears (trim s.ctr) ↔ c.Clears s.ctr))) ∧
    (c.IsTrimmed →
      (s.trimmed.status c = s.status c ↔
        c.Names s.customer ∨ trim s.ctr = s.ctr ∨ ¬c.Clears (trim s.ctr))) ∧
    { s with city := trim s.city, textA := trim s.textA, textB := trim s.textB : Subject }.status c =
      s.status c ∧
    ∀ row : Row, (ofRow row).trimmed = ofRow row :=
  ⟨s.status_trimmed_eq_iff c, s.status_trimmed_eq_iff_of_isTrimmed, s.status_trimmed_texts c,
    trimmed_ofRow⟩

/-- A customer with white space at the ends of all texts, the code not among the approved ones. -/
theorem trimming_leaves_status_padded :
    let s : Subject := ⟨" Acme\t", "\u3000DE ", " \n", "\u2003zKwd", "Zemb "⟩
    let c : Criteria := ⟨.ofList ["sanction"], .ofList ["ru"]⟩
    c.IsTrimmed ∧ ¬c.Clears (trim s.ctr) ∧ s.trimmed.status c = s.status c ∧
      s.status c = .zkwdAndZemb := by
  intro s c
  have hc : c.IsTrimmed := by
    have hkeywords : ∀ entry ∈ c.keywords.toList, trim entry = entry := by decide
    have hcodes : ∀ entry ∈ c.codes.toList, trim entry = entry := by decide
    exact ⟨hkeywords, hcodes⟩
  have hclears : ¬c.Clears (trim s.ctr) := by
    rw [← c.isApproved_iff_clears]
    decide
  exact ⟨hc, hclears, ((trimming_leaves_status_iff s c).2.1 hc).2 (.inr (.inr hclears)), by decide⟩

/-- A code with a space in front of it is no approved one until it is trimmed, and a name that begins
with a space holds a keyword that does so only until it is trimmed. -/
theorem not_status_trimmed_spaced :
    let c : Criteria := ⟨.ofList [" bank"], .ofList ["ru"]⟩
    let spacedCode : Subject := ⟨"Acme", " RU", "Moscow", "", ""⟩
    let spacedName : Subject := ⟨" Bank Ltd", "DE", "Berlin", "", ""⟩
    spacedCode.trimmed.status c ≠ spacedCode.status c ∧
      spacedCode.status c = .spl ∧ spacedCode.trimmed.status c = .approved ∧
      spacedName.trimmed.status c ≠ spacedName.status c ∧
      spacedName.status c = .highRisk ∧ spacedName.trimmed.status c = .spl := by
  decide

end Subject

end Screening
