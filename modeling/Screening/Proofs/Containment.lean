/-
Entries in longer texts.

A text is folded piece by piece: the uppercase of two texts joined is that of the one and then that of
the other. So an entry that is found in a text is found in every text that holds it, and an entry that
is not blank is found wherever it is written. What is found does not change by folding once more, nor
by writing letters small.

* `fold_lower`: the case of letters is lost.
* `containsFolded_iff_exists`: an entry is found if its uppercase is a part of that of the text.
* `containsFolded_join`: an entry stays found in longer texts.
* `folds_piece_by_piece`: the laws of folding, and of finding an entry.
-/
import Screening.Proofs.Uppercase

namespace Screening.Text

/-! ### Small letters -/

/-- The text with the capitals of ASCII made small. -/
def lower (s : String) : String :=
  String.ofList (s.toList.map Char.toLower)

/-- A letter of ASCII has the uppercase of its capital. -/
lemma upper_toLower (c : Char) : upper c.toLower = upper c := by
  have hn := toNat_toLower c
  split at hn
  next hcapital =>
    have hmem : c.toNat ∈ List.range' 65 26 := List.mem_range'_1.2 (by omega)
    obtain ⟨hself, hsmall⟩ := upper_ofNat_capital c.toNat hmem
    rw [← hn, Char.ofNat_toNat, Char.ofNat_toNat] at hsmall
    rw [Char.ofNat_toNat] at hself
    exact hsmall.trans hself.symm
  next => rw [Char.toNat_inj.1 hn]

/-- The case of letters is lost. -/
lemma fold_lower (s : String) : fold (lower s) = fold s := by
  rw [← String.toList_inj, toList_fold, toList_fold, lower, String.toList_ofList,
    List.flatMap_map]
  exact List.flatMap_congr fun c _ => upper_toLower c

/-! ### Entries -/

variable {text entry : String}

/-- An entry that is not blank is found if its uppercase is a part of that of the text. -/
lemma containsFolded_iff_exists :
    containsFolded text entry = true ↔
      (∃ c ∈ entry.toList, isSpace c = false) ∧ ∃ p q, fold text = p ++ fold entry ++ q := by
  rw [containsFolded_iff, isBlank_eq_false_iff]
  refine and_congr_right fun _ => ⟨?_, ?_⟩
  · rintro ⟨p, q, hpq⟩
    refine ⟨String.ofList p, String.ofList q, ?_⟩
    rw [← String.toList_inj, ← hpq]
    simp
  · rintro ⟨p, q, hpq⟩
    refine ⟨p.toList, q.toList, ?_⟩
    rw [hpq]
    simp

/-- An entry that is found in a text is found in a longer one. -/
lemma containsFolded_join (h : containsFolded text entry = true) (p q : String) :
    containsFolded (p ++ text ++ q) entry = true := by
  obtain ⟨hspace, before, behind, hfold⟩ := containsFolded_iff_exists.1 h
  refine containsFolded_iff_exists.2 ⟨hspace, fold p ++ before, behind ++ fold q, ?_⟩
  rw [fold_append, fold_append, hfold]
  simp only [String.append_assoc]

/-- An entry that is not blank is found in itself. -/
lemma containsFolded_self (h : ∃ c ∈ entry.toList, isSpace c = false) :
    containsFolded entry entry = true :=
  containsFolded_iff_exists.2 ⟨h, "", "", by simp⟩

/-- **Texts are folded piece by piece.** Folding goes through an append, folding twice is folding
once, and folding and trimming can change places, so a text is all white space exactly if its
uppercase is; and the case of letters is lost. An entry that is not all white space is found exactly
if its uppercase is a part of the uppercase of the text. So it is found in every text that holds one
where it is found, and in every text that holds the entry itself. -/
theorem folds_piece_by_piece :
    (∀ s t, fold (s ++ t) = fold s ++ fold t) ∧
    (∀ s, fold (fold s) = fold s) ∧
    (∀ s, trim (fold s) = fold (trim s)) ∧
    (∀ s, (∀ c ∈ s.toList, isSpace c = true) ↔ ∀ c ∈ (fold s).toList, isSpace c = true) ∧
    (∀ s, fold (lower s) = fold s) ∧
    (∀ h k, containsFolded h k = true ↔
      (∃ c ∈ k.toList, isSpace c = false) ∧ ∃ p q, fold h = p ++ fold k ++ q) ∧
    (∀ h k p q, containsFolded h k = true → containsFolded (p ++ h ++ q) k = true) ∧
    ∀ k p q, (∃ c ∈ k.toList, isSpace c = false) → containsFolded (p ++ k ++ q) k = true := by
  refine ⟨fold_append, fold_fold, trim_fold, fun s => ?_, fold_lower,
    fun h k => containsFolded_iff_exists, fun h k p q hfound => containsFolded_join hfound p q,
    fun k p q hspace => containsFolded_join (containsFolded_self hspace) p q⟩
  rw [← isBlank_iff, ← isBlank_iff, isBlank_fold]

/-- Entries behind characters whose uppercase is longer: one is found across two of them, and one that
begins with white space is found where it is written. -/
theorem folds_piece_by_piece_strasse :
    containsFolded "Große Straße" "E STRASS" = true ∧
      containsFolded ("ŉ" ++ "Große Straße" ++ "ﬁ") "E STRASS" = true ∧
      (∃ c ∈ " ß".toList, isSpace c = false) ∧ containsFolded ("ᾳ" ++ " ß" ++ "ﬃ") " ß" = true := by
  obtain ⟨-, -, -, -, -, -, hlonger, hself⟩ := folds_piece_by_piece
  have hfound : containsFolded "Große Straße" "E STRASS" = true := by decide
  have hspace : ∃ c ∈ " ß".toList, isSpace c = false := ⟨'ß', by decide, by decide⟩
  exact ⟨hfound, hlonger _ _ "ŉ" "ﬁ" hfound, hspace, hself _ "ᾳ" "ﬃ" hspace⟩

end Screening.Text
