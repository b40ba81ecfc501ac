/-
Criteria in texts that others wrote.

A text need not be one that was written from criteria. An object of the grammar, with white space
and escapes of any kind, is read as the criteria that its two members list, in whatever order the
members stand and whatever the others hold; a member that is absent lists nothing. If one of the two
stands twice, there are no criteria, even if both list the same.

* `Criteria.Holds`: a member that lists strings, or is absent.
* `Criteria.takesValues_fields`: the fields agree with passing over.
* `Criteria.ofJson_of_isDocument`: what is read of a text of the grammar.
-/
import Screening.Criteria.Json
import Screening.Proofs.Json.Objects

namespace Screening.Criteria

open Json (Does IsDocument IsGap IsHex IsInner IsListOf IsMember IsStringText IsValue MemberText
  NamedValue Padded isGap_nil isHex_of_digits isStringText_of_all quoted spells_listOfStrings
  takesValues_string)

/-- The fields of criteria. -/
def fields : List (Json.Field Criteria) := [keywordsField, codesField]

/-- Of the members of an object those of a name list the strings; if there is none, there are no
strings. -/
structure Holds (members : List NamedValue) (name : String) (strings : List String) : Prop where
  given : ∀ value, (name, value) ∈ members → IsListOf strings value
  absent : name ∉ members.map Prod.fst → strings = []

variable {members : List NamedValue} {keywords codes : List String}

/-! ### Members -/

/-- What a member of a name does to criteria if it lists the strings of that name. -/
def put (keywords codes : List String) (name : String) (criteria : Criteria) : Criteria :=
  if name = keywordsName then { criteria with keywords := .ofList keywords }
  else if name = codesName then { criteria with codes := .ofList codes }
  else criteria

lemma put_keywords (keywords codes : List String) : put keywords codes keywordsName
    = fun criteria => { criteria with keywords := .ofList keywords } :=
  funext fun _ => if_pos rfl

lemma put_codes (keywords codes : List String) : put keywords codes codesName
    = fun criteria => { criteria with codes := .ofList codes } :=
  funext fun _ => (if_neg (by decide)).trans (if_pos rfl)

lemma put_unknown {name : String} (hkeywords : name ≠ keywordsName) (hcodes : name ≠ codesName) :
    put keywords codes name = id :=
  funext fun _ => (if_neg hkeywords).trans (if_neg hcodes)

/-- A member does to criteria what its name says. -/
lemma does_put (hkeywords : Holds members keywordsName keywords)
    (hcodes : Holds members codesName codes) {member : NamedValue} (hmember : member ∈ members) :
    Does fields member (put keywords codes member.1) := by
  obtain ⟨name, value⟩ := member
  by_cases hfirst : name = keywordsName
  · subst hfirst
    have hfind : fields.find? (·.name == keywordsName) = some keywordsField := rfl
    rw [put_keywords]
    refine .field hfind ?_
    exact ((spells_listOfStrings (hkeywords.given value hmember)).map EntrySet.ofList).map
      fun entries (criteria : Criteria) => { criteria with keywords := entries }
  by_cases hsecond : name = codesName
  · subst hsecond
    have hfind : fields.find? (·.name == codesName) = some codesField := rfl
    rw [put_codes]
    refine .field hfind ?_
    exact ((spells_listOfStrings (hcodes.given value hmember)).map EntrySet.ofList).map
      fun entries (criteria : Criteria) => { criteria with codes := entries }
  · rw [put_unknown hfirst hsecond]
    refine .unknown (List.find?_eq_none.2 ?_)
    intro field hfield hname
    rcases List.mem_pair.1 hfield with rfl | rfl
    · exact hfirst (beq_iff_eq.1 hname).symm
    · exact hsecond (beq_iff_eq.1 hname).symm

/-- Members of any names in any order put the strings of the names that stand among them. -/
lemma foldl_put (keywords codes names : List String) (criteria : Criteria) :
    names.foldl (fun criteria name => put keywords codes name criteria) criteria
      = ⟨if keywordsName ∈ names then .ofList keywords else criteria.keywords,
          if codesName ∈ names then .ofList codes else criteria.codes⟩ := by
  induction names generalizing criteria with
  | nil => rfl
  | cons name names ih =>
    rw [List.foldl_cons, ih]
    by_cases hfirst : name = keywordsName
    · subst hfirst
      have hne : codesName ≠ keywordsName := by decide
      simp [put_keywords, hne]
    by_cases hsecond : name = codesName
    · subst hsecond
      have hne : keywordsName ≠ codesName := by decide
      simp [put_codes, hne]
    · rw [put_unknown hfirst hsecond]
      simp [Ne.symm hfirst, Ne.symm hsecond]

/-- The fields of criteria agree with passing over. -/
lemma takesValues_fields : ∀ field ∈ fields, field.reader.TakesValues := by
  have hentries : entriesReader.TakesValues := takesValues_string.list.map _
  intro field hfield
  rcases List.mem_pair.1 hfield with rfl | rfl
  · exact hentries.map fun entries (criteria : Criteria) => { criteria with keywords := entries }
  · exact hentries.map fun entries (criteria : Criteria) => { criteria with codes := entries }

/-! ### Texts -/

/-- The strings of a name are those that stand among the members. -/
lemma Holds.ite_eq {name : String} {strings : List String} (h : Holds members name strings) :
    (if name ∈ members.map Prod.fst then EntrySet.ofList strings else .empty)
      = .ofList strings := by
  split
  next => rfl
  next hname =>
    rw [h.absent hname]
    rfl

/-- **Criteria are read from any text of the grammar.** Let a text be an object, with white space
around each of its tokens and escapes in its strings. If neither `highRiskKeywords` nor
`approvedCodes` stands twice, and each lists strings or is absent, then criteria are read, and they
hold the strings that are listed and no others. If one of the two stands twice, no criteria are read.
The other members may hold any values, of any depth. -/
theorem ofJson_of_isDocument {text : String} (htext : IsDocument members text.toList) :
    ((∀ name ∈ ["highRiskKeywords", "approvedCodes"], (members.map Prod.fst).count name ≤ 1) →
      ∀ keywords codes, Holds members "highRiskKeywords" keywords →
        Holds members "approvedCodes" codes →
        ∃ criteria, ofJson text = .ok criteria ∧
          (∀ entry, entry ∈ criteria.keywords ↔ entry ∈ keywords) ∧
          ∀ entry, entry ∈ criteria.codes ↔ entry ∈ codes) ∧
    ((∃ name ∈ ["highRiskKeywords", "approvedCodes"], 2 ≤ (members.map Prod.fst).count name) →
      ∃ e, ofJson text = .error e) := by
  constructor
  · intro honce keywords codes hkeywords hcodes
    refine ⟨⟨.ofList keywords, .ofList codes⟩, ?_, fun _ => EntrySet.mem_ofList,
      fun _ => EntrySet.mem_ofList⟩
    have hdoes : List.Forall₂ (Does fields) members
        (members.map fun member => put keywords codes member.1) := by
      rw [List.forall₂_map_right_iff, List.forall₂_same]
      exact fun member hmember => does_put hkeywords hcodes hmember
    have hfields : ∀ field ∈ fields, (members.map Prod.fst).count field.name ≤ 1 := by
      intro field hfield
      exact honce field.name (List.mem_map_of_mem (f := (·.name)) hfield)
    have hfold := foldl_put keywords codes (members.map Prod.fst) .empty
    rw [List.foldl_map] at hfold
    have hparse : ofJson text = _ := Json.parse_of_isDocument htext hdoes hfields
    rw [hparse, List.foldl_map, hfold]
    dsimp only [empty]
    rw [Holds.ite_eq (show Holds members keywordsName keywords from hkeywords),
      Holds.ite_eq (show Holds members codesName codes from hcodes)]
  · rintro ⟨name, hname, htwice⟩
    obtain ⟨field, hfield, rfl⟩ : ∃ field ∈ fields, field.name = name := List.mem_map.1 hname
    exact Json.exists_parse_error_of_repeated htext takesValues_fields hfield htwice

/-! ### Two texts -/

/-- A text of the grammar with no white space around it. -/
def tight (text : List Char) : Padded where
  before := []
  text := text
  after := []
  isGap_before := by decide
  isGap_after := by decide

/-- A member that is none of criteria, a list of an empty list and a number. -/
def noteText : MemberText where
  key := tight "note".toList
  value := tight "[[],-1.5e3]".toList

/-- A member that lists keywords, one of them twice; a letter of its name is escaped. -/
def keywordsText : MemberText where
  key := tight "\\u0068ighRiskKeywords".toList
  value := ⟨['\t'], "[ \"\\uD83D\\ude00\",\"é\", \"é\"]".toList, ['\n'], by decide, by decide⟩

/-- The member of `noteText`. -/
def note : NamedValue := ("note", noteText.value.text)

/-- The member of `keywordsText`. -/
def listed : NamedValue := ("highRiskKeywords", keywordsText.value.text)

lemma isListOf_listed : IsListOf ["😀", "é", "é"] listed.2 := by
  have hhigh : IsHex "D83D".toList 0xD83D :=
    isHex_of_digits (w := 13) (x := 8) (y := 3) (z := 13) (by decide) (by decide) (by decide)
      (by decide)
  have hlow : IsHex "de00".toList 0xDE00 :=
    isHex_of_digits (w := 13) (x := 14) (y := 0) (z := 0) (by decide) (by decide) (by decide)
      (by decide)
  have hface : IsStringText "\\uD83D\\ude00".toList "😀".toList :=
    .pair hhigh hlow ⟨by decide, by decide, rfl⟩ .nil
  have haccent : IsStringText "é".toList "é".toList := isStringText_of_all (by decide)
  refine ⟨[⟨[' '], quoted "\\uD83D\\ude00".toList, [], by decide, by decide⟩,
    tight (quoted "é".toList), ⟨[' '], quoted "é".toList, [], by decide, by decide⟩], _, ?_, rfl, rfl⟩
  exact .cons ⟨_, hface, rfl⟩ (.cons ⟨_, haccent, rfl⟩ (.cons ⟨_, haccent, rfl⟩ .nil))

lemma isMember_listed : IsMember listed keywordsText where
  key := by
    have hletter : IsHex "0068".toList 'h'.toNat :=
      isHex_of_digits (w := 0) (x := 0) (y := 6) (z := 8) (by decide) (by decide) (by decide)
        (by decide)
    exact .number hletter (isStringText_of_all (by decide))
  text_eq := rfl
  value := isListOf_listed.isValue

lemma isMember_note : IsMember note noteText where
  key := isStringText_of_all (by decide)
  text_eq := rfl
  value := by
    have hblank : IsInner (List.map Padded.all []) [] := isGap_nil
    have hempty : IsValue "[]".toList := .list hblank fun _ h => absurd h List.not_mem_nil
    have hnumber : IsValue "-1.5e3".toList := by
      refine .number (.inr ⟨"1.5e3".toList, ⟨['1'], ".5".toList, "e3".toList, ?_, ?_, ?_, rfl⟩, rfl⟩)
      · exact ⟨by decide, by simp⟩
      · exact .inr ⟨['5'], by decide, rfl⟩
      · exact .inr ⟨'e', [], ['3'], .inl rfl, .inl rfl, by decide, rfl⟩
    have hinner : IsInner ([tight "[]".toList, tight "-1.5e3".toList].map Padded.all)
        "[],-1.5e3".toList := rfl
    refine .list hinner fun part hpart => ?_
    rcases List.mem_pair.1 hpart with rfl | rfl
    · exact hempty
    · exact hnumber

/-- A text whose members are a note and the keywords. -/
def noted : String :=
  "\n\x7b\"note\":[[],-1.5e3],\"\\u0068ighRiskKeywords\":\t[ \"\\uD83D\\ude00\",\"é\", \"é\"]\n\x7d"

/-- A text that lists the keywords twice. -/
def twice : String :=
  "\x7b\"\\u0068ighRiskKeywords\":\t[ \"\\uD83D\\ude00\",\"é\", \"é\"]\n," ++
    "\"\\u0068ighRiskKeywords\":\t[ \"\\uD83D\\ude00\",\"é\", \"é\"]\n\x7d"

/-- Behind white space stand the note and the keywords, in this order. -/
lemma isDocument_noted : IsDocument [note, listed] noted.toList := by
  have hmembers : List.Forall₂ IsMember [note, listed] [noteText, keywordsText] :=
    .cons isMember_note (.cons isMember_listed .nil)
  exact ⟨⟨['\n'], _, [], by decide, by decide⟩, ⟨_, _, hmembers, rfl, rfl⟩, by decide +kernel⟩

lemma isDocument_twice : IsDocument [listed, listed] twice.toList := by
  have hmembers : List.Forall₂ IsMember [listed, listed] [keywordsText, keywordsText] :=
    .cons isMember_listed (.cons isMember_listed .nil)
  exact ⟨tight _, ⟨_, _, hmembers, rfl, rfl⟩, by decide +kernel⟩

lemma holds_listed : Holds [note, listed] "highRiskKeywords" ["😀", "é", "é"] where
  given value hvalue := by
    have hnote : "highRiskKeywords" ≠ note.1 := by decide
    rcases List.mem_pair.1 hvalue with h | h
    · exact absurd (Prod.mk.inj h).1 hnote
    · rw [(Prod.mk.inj h).2]
      exact isListOf_listed
  absent h := absurd h (by decide)

lemma holds_absent : Holds [note, listed] "approvedCodes" [] where
  given value hvalue := by
    have hnames : "approvedCodes" ∉ [note, listed].map Prod.fst := by decide
    exact absurd (List.mem_map_of_mem hvalue) hnames
  absent _ := rfl

/-- Keywords are read behind a note, and not if they are listed twice. -/
theorem ofJson_of_isDocument_noted :
    (∃ criteria, ofJson noted = .ok criteria ∧
      (∀ entry, entry ∈ criteria.keywords ↔ entry ∈ ["😀", "é", "é"]) ∧
      ∀ entry, entry ∈ criteria.codes ↔ entry ∈ ([] : List String)) ∧
    ∃ e, ofJson twice = .error e :=
  ⟨(ofJson_of_isDocument isDocument_noted).1 (by decide) _ _ holds_listed holds_absent,
    (ofJson_of_isDocument isDocument_twice).2 (by decide)⟩

end Screening.Criteria
