/-
Passing over a text, and over a longer one.

What is taken off a text ends where it is closed, so more text behind it changes nothing. Only a
number has no end of its own: it is taken the same way off a longer text if something stands behind
it already.

* `readString_append`, `skipString_append`, `skipNumber_append`: the scalars.
* `skipInto_list`, `skipOut_comma` and the others: one step in the stack of frames.
* `skipValue_append`: a value with something behind it is passed over in every longer text.
-/
import Mathlib.Data.List.Infix
import Screening.Json.Skip
import Screening.Proofs.Json.Strings
import Screening.Proofs.Results

namespace Screening.Json

variable {cs r rest : List Char} {c : Char}

/-! ### White space and words -/

/-- What a test stops at it stops at in a longer text. -/
lemma dropWhile_append_cons {p : Char → Bool} (h : cs.dropWhile p = c :: r) (more : List Char) :
    (cs ++ more).dropWhile p = c :: (r ++ more) := by
  rw [List.dropWhile_append, h]
  rfl

lemma skipSpace_append (h : skipSpace cs = c :: r) (more : List Char) :
    skipSpace (cs ++ more) = c :: (r ++ more) :=
  dropWhile_append_cons h more

lemma readWord_append {word : List Char} (h : readWord word cs = .ok rest) (more : List Char) :
    readWord word (cs ++ more) = .ok (rest ++ more) := by
  induction word generalizing cs with
  | nil =>
    cases h
    rfl
  | cons w ws ih =>
    cases cs with
    | nil => cases h
    | cons c cs =>
      rw [readWord] at h
      rw [List.cons_append, readWord]
      split at h
      next hc => rw [if_pos hc, ih h]
      next => cases h

/-! ### Strings -/

/-- A hexadecimal digit is written in one byte. -/
lemma utf8Size_of_hexValue? {v : ℕ} (h : hexValue? c = some v) : c.utf8Size = 1 := by
  have hc : c.toNat ≤ 102 := by
    rw [hexValue?] at h
    split_ifs at h <;> omega
  rw [Char.utf8Size, if_pos (UInt32.le_iff_toNat_le.2 (Nat.le_trans hc (by decide)))]

lemma size_of_mapM_hexValue? {ds : List Char} {vs : List ℕ} (h : ds.mapM hexValue? = some vs) :
    Utf8.size ds = ds.length := by
  induction ds generalizing vs with
  | nil => rfl
  | cons d ds ih =>
    rw [List.mapM_cons] at h
    obtain ⟨v, hv, h⟩ := Option.bind_eq_some_iff.1 h
    obtain ⟨vs', hvs, -⟩ := Option.bind_eq_some_iff.1 h
    rw [Utf8.size, utf8Size_of_hexValue? hv, ih hvs, List.length_cons, Nat.add_comm]

/-- Hexadecimal digits that are read are the first four characters. -/
lemma readHex_append {n : ℕ} (h : readHex cs = .ok (n, rest)) (more : List Char) :
    readHex (cs ++ more) = .ok (n, rest ++ more) := by
  rw [readHex] at h
  split at h
  next => cases h
  next hsize =>
    split at h
    next ds hds =>
      cases h
      have hlength : 4 ≤ cs.length := by
        have := size_of_mapM_hexValue? hds
        rw [List.length_take] at this
        omega
      rw [readHex, List.take_append_of_le_length hlength, List.drop_append_of_le_length hlength,
        if_neg hsize, hds]
    next => cases h

lemma readTrailing_append {leading : ℕ} (h : readTrailing leading cs = .ok (c, rest))
    (more : List Char) : readTrailing leading (cs ++ more) = .ok (c, rest ++ more) := by
  unfold readTrailing at h
  split at h
  case h_3 r =>
    split at h
    next => cases h
    next n rest' hr =>
      rw [List.cons_append, List.cons_append, readTrailing, readHex_append hr]
      dsimp only
      split at h
      next ht =>
        rw [Except.ok.injEq, Prod.mk.injEq] at h
        obtain ⟨rfl, rfl⟩ := h
        rw [if_pos ht]
      next => cases h
  all_goals cases h

lemma readEscape_append (h : readEscape cs = .ok (c, rest)) (more : List Char) :
    readEscape (cs ++ more) = .ok (c, rest ++ more) := by
  unfold readEscape at h
  split at h
  next => cases h
  next r =>
    split at h
    next => cases h
    next n rest' hr =>
      rw [List.cons_append, readEscape, readHex_append hr]
      dsimp only
      split at h
      next => cases h
      next ht =>
        rw [if_neg ht]
        split at h
        next hl => rw [if_pos hl, readTrailing_append h]
        next hl =>
          cases h
          rw [if_neg hl]
  next letter r hu =>
    split at h
    next d hd =>
      cases h
      rw [List.cons_append, readEscape, hd]
      exact hu
    next => cases h

/-- The number of an escape is passed over. -/
lemma skipEscape_number {n : ℕ} (h : readHex r = .ok (n, rest)) :
    skipEscape ('u' :: r) = .ok rest := by
  rw [skipEscape, h]
  rfl

/-- The letter of a short escape is passed over. -/
lemma skipEscape_short {letter : Char} (h : escaped? letter = some c) (hletter : letter ≠ 'u')
    (r : List Char) : skipEscape (letter :: r) = .ok r := by
  rw [skipEscape, h]
  · rfl
  · exact hletter

lemma skipEscape_append (h : skipEscape cs = .ok rest) (more : List Char) :
    skipEscape (cs ++ more) = .ok (rest ++ more) := by
  unfold skipEscape at h
  split at h
  next => cases h
  next r =>
    obtain ⟨⟨n, rest'⟩, hr, rfl⟩ := exists_of_map_eq_ok h
    exact skipEscape_number (readHex_append hr more)
  next letter r hletter =>
    split at h
    next hd =>
      cases h
      obtain ⟨d, hd⟩ := Option.isSome_iff_exists.1 hd
      exact skipEscape_short hd hletter _
    next => cases h

/-- A string that is read is read in every longer text. -/
lemma readString_append {s : List Char} (h : readString cs = .ok (s, rest)) (more : List Char) :
    readString (cs ++ more) = .ok (s, rest ++ more) := by
  fun_induction readString cs generalizing s with
  | case1 => cases h
  | case2 r =>
    cases h
    rw [List.cons_append, readString]
  | case3 r e he => cases h
  | case4 r c rest' he hlt ih =>
    obtain ⟨⟨s', rest''⟩, hr, heq⟩ := exists_of_map_eq_ok h
    cases heq
    rw [List.cons_append, readString_of_readEscape (readEscape_append he more), ih hr]
    rfl
  | case5 c r _ _ hc => cases h
  | case6 c r hquote hback hc ih =>
    obtain ⟨⟨s', rest''⟩, hr, heq⟩ := exists_of_map_eq_ok h
    cases heq
    rw [List.cons_append, readString_cons hquote hback hc, ih hr]
    rfl

/-- An escape is passed over with the string behind it. -/
lemma skipString_of_skipEscape (h : skipEscape r = .ok rest) :
    skipString ('\\' :: r) = skipString rest := by
  rw [skipString]
  split
  next e he => rw [h] at he; cases he
  next rest' he =>
    rw [h] at he
    cases he
    rfl

/-- A character that needs no escape is passed over. -/
lemma skipString_cons (hquote : c ≠ '"') (hback : c ≠ '\\') (hc : ¬c.toNat < 0x20)
    (r : List Char) : skipString (c :: r) = skipString r := by
  rw [skipString]
  · rw [if_neg hc]
  · exact fun h => hquote h
  · exact fun h => hback h

/-- A string that is passed over is passed over in every longer text. -/
lemma skipString_append (h : skipString cs = .ok rest) (more : List Char) :
    skipString (cs ++ more) = .ok (rest ++ more) := by
  fun_induction skipString cs with
  | case1 => cases h
  | case2 r =>
    cases h
    rw [List.cons_append, skipString]
  | case3 r e he => cases h
  | case4 r rest' he hlt ih =>
    rw [List.cons_append, skipString_of_skipEscape (skipEscape_append he more), ih h]
  | case5 c r _ _ hc => cases h
  | case6 c r hquote hback hc ih =>
    rw [List.cons_append, skipString_cons hquote hback hc, ih h]

/-! ### Numbers -/

/-- Digits that end in a text end there in a longer one. -/
lemma skipDigits_append (h : skipDigits cs ≠ []) (more : List Char) :
    skipDigits (cs ++ more) = skipDigits cs ++ more := by
  obtain ⟨c, r, hr⟩ := List.exists_cons_of_ne_nil h
  rw [hr]
  exact dropWhile_append_cons hr more

lemma readExponentSign_append (h : (readExponentSign cs).2 ≠ []) (more : List Char) :
    (readExponentSign (cs ++ more)).2 = (readExponentSign cs).2 ++ more := by
  cases cs with
  | nil => exact absurd rfl h
  | cons c cs =>
    by_cases hplus : c = '+'
    · subst hplus
      rfl
    · by_cases hminus : c = '-'
      · subst hminus
        rfl
      · have hsign : ∀ cs, readExponentSign (c :: cs) = (true, c :: cs) := by
          intro cs
          rw [readExponentSign]
          · exact fun _ h => hplus (List.cons.inj h).1
          · exact fun _ h => hminus (List.cons.inj h).1
        rw [List.cons_append, hsign, hsign]
        rfl

lemma skipExponent_append (h : skipExponent cs = .ok rest) (hrest : rest ≠ []) (more : List Char) :
    skipExponent (cs ++ more) = .ok (rest ++ more) := by
  rw [skipExponent] at h
  split at h
  next => cases h
  next c r hr =>
    have hne : (readExponentSign cs).2 ≠ [] := by
      rw [hr]
      exact List.cons_ne_nil _ _
    split at h
    next hc =>
      cases h
      rw [skipExponent, readExponentSign_append hne, hr]
      dsimp only [List.cons_append]
      rw [if_pos hc, skipDigits_append hrest]
    next => cases h

lemma skipScale_append (h : skipScale cs = .ok rest) (hrest : rest ≠ []) (more : List Char) :
    skipScale (cs ++ more) = .ok (rest ++ more) := by
  unfold skipScale at h
  split at h
  next c r =>
    rw [List.cons_append, skipScale]
    split at h
    next hc => rw [if_pos hc, skipExponent_append h hrest]
    next hc =>
      cases h
      rw [if_neg hc]
      rfl
  next =>
    cases h
    exact absurd rfl hrest

/-- A fraction is passed over before an exponent. -/
lemma skipAfterInteger_point (hc : c.isDigit = true) (r : List Char) :
    skipAfterInteger ('.' :: c :: r) = skipScale (skipDigits (c :: r)) := by
  rw [skipAfterInteger]
  exact if_pos hc

/-- Without a point there is no fraction. -/
lemma skipAfterInteger_of_ne (h : ∀ r, cs ≠ '.' :: r) : skipAfterInteger cs = skipScale cs := by
  rw [skipAfterInteger]
  exact h

lemma skipAfterInteger_append (h : skipAfterInteger cs = .ok rest) (hrest : rest ≠ [])
    (more : List Char) : skipAfterInteger (cs ++ more) = .ok (rest ++ more) := by
  by_cases hpoint : ∃ r, cs = '.' :: r
  · obtain ⟨r, rfl⟩ := hpoint
    cases r with
    | nil => cases h
    | cons c r =>
      cases hc : c.isDigit with
      | false =>
        rw [skipAfterInteger, hc] at h
        cases h
      | true =>
        rw [skipAfterInteger_point hc] at h
        have hne : skipDigits (c :: r) ≠ [] := by
          intro hnil
          rw [hnil] at h
          cases h
          exact hrest rfl
        rw [List.cons_append, List.cons_append, skipAfterInteger_point hc, ← List.cons_append,
          skipDigits_append hne, skipScale_append h hrest]
  · rw [not_exists] at hpoint
    rw [skipAfterInteger_of_ne hpoint] at h
    have hne : ∀ r, cs ++ more ≠ '.' :: r := by
      intro r heq
      cases cs with
      | nil =>
        cases h
        exact hrest rfl
      | cons c cs =>
        cases heq
        exact hpoint cs rfl
    rw [skipAfterInteger_of_ne hne, skipScale_append h hrest]

/-- No digit follows a leading zero. -/
lemma skipNumber_zero (h : ∀ d r', r = d :: r' → d.isDigit = false) :
    skipNumber ('0' :: r) = skipAfterInteger r := by
  cases r with
  | nil => rfl
  | cons d r' =>
    have hd := h d r' rfl
    rw [skipNumber, if_neg (by decide), if_pos rfl, hd]
    rfl

/-- After another digit all digits are passed over. -/
lemma skipNumber_digit (hc : c.isDigit = true) (hzero : c ≠ '0') (r : List Char) :
    skipNumber (c :: r) = skipAfterInteger (skipDigits r) := by
  unfold skipNumber
  dsimp only
  rw [hc, if_neg (by decide), if_neg hzero]

/-- A number that is passed over, with something behind it, is passed over in every longer text. -/
lemma skipNumber_append (h : skipNumber cs = .ok rest) (hrest : rest ≠ []) (more : List Char) :
    skipNumber (cs ++ more) = .ok (rest ++ more) := by
  cases cs with
  | nil => cases h
  | cons c r =>
    cases hc : c.isDigit with
    | false =>
      unfold skipNumber at h
      dsimp only at h
      rw [hc] at h
      cases h
    | true =>
      rw [List.cons_append]
      by_cases hzero : c = '0'
      · subst hzero
        cases r with
        | nil =>
          cases h
          exact absurd rfl hrest
        | cons d r =>
          cases hd : d.isDigit with
          | true =>
            unfold skipNumber at h
            dsimp only at h
            rw [if_neg (by decide), if_pos rfl, hd] at h
            cases h
          | false =>
            rw [skipNumber_zero (by rintro _ _ ⟨⟩; exact hd)] at h
            rw [skipNumber_zero (by rintro _ _ ⟨⟩; exact hd), skipAfterInteger_append h hrest]
      · rw [skipNumber_digit hc hzero] at h
        have hne : skipDigits r ≠ [] := by
          intro hnil
          rw [hnil] at h
          cases h
          exact hrest rfl
        rw [skipNumber_digit hc hzero, skipDigits_append hne, skipAfterInteger_append h hrest]

/-! ### One step in the stack of frames -/

section Steps

variable {stack : List Frame} {r' : List Char}

/-- A scalar is passed over. -/
lemma skipInto_scalar (h : skipStart cs = .ok (none, r)) (stack : List Frame) :
    skipInto stack cs = skipOut stack r := by
  rw [skipInto]
  split
  next he => rw [h] at he; cases he
  next he =>
    rw [h] at he
    cases he
    rfl
  next he => rw [h] at he; cases he
  next he => rw [h] at he; cases he

/-- An empty list is passed over. -/
lemma skipInto_emptyList (h : skipStart cs = .ok (some .list, r)) (hr : skipSpace r = ']' :: r')
    (stack : List Frame) : skipInto stack cs = skipOut stack r' := by
  rw [skipInto]
  split
  next he => rw [h] at he; cases he
  next he => rw [h] at he; cases he
  next he =>
    rw [h] at he
    cases he
    split
    next hs => rw [hr] at hs; cases hs
    next hs =>
      rw [hr] at hs
      cases hs
      exact if_pos rfl
  next he => rw [h] at he; cases he

/-- A list is entered at its first element. -/
lemma skipInto_list (h : skipStart cs = .ok (some .list, r)) (hr : skipSpace r = c :: r')
    (hc : c ≠ ']') (stack : List Frame) : skipInto stack cs = skipInto (.list :: stack) r := by
  rw [skipInto]
  split
  next he => rw [h] at he; cases he
  next he => rw [h] at he; cases he
  next he =>
    rw [h] at he
    cases he
    split
    next hs => rw [hr] at hs; cases hs
    next hs =>
      rw [hr] at hs
      cases hs
      exact if_neg hc
  next he => rw [h] at he; cases he

/-- An empty object is passed over. -/
lemma skipInto_emptyObject (h : skipStart cs = .ok (some .object, r)) (hr : skipSpace r = c :: r')
    (hc : c.toNat = 0x7D) (stack : List Frame) : skipInto stack cs = skipOut stack r' := by
  rw [skipInto]
  split
  next he => rw [h] at he; cases he
  next he => rw [h] at he; cases he
  next he => rw [h] at he; cases he
  next he =>
    rw [h] at he
    cases he
    split
    next hs => rw [hr] at hs; cases hs
    next hs =>
      rw [hr] at hs
      cases hs
      exact if_pos hc

/-- An object is entered at its first value. -/
lemma skipInto_object (h : skipStart cs = .ok (some .object, r)) (hr : skipSpace r = c :: r')
    (hc : c.toNat ≠ 0x7D) (hk : skipKey r = .ok rest) (stack : List Frame) :
    skipInto stack cs = skipInto (.object :: stack) rest := by
  rw [skipInto]
  split
  next he => rw [h] at he; cases he
  next he => rw [h] at he; cases he
  next he => rw [h] at he; cases he
  next he =>
    rw [h] at he
    cases he
    split
    next hs => rw [hr] at hs; cases hs
    next hs =>
      rw [hr] at hs
      cases hs
      rw [if_neg hc]
      split
      next hs => rw [hk] at hs; cases hs
      next hs =>
        rw [hk] at hs
        cases hs
        rfl

lemma skipOut_nil (cs : List Char) : skipOut [] cs = .ok cs := by
  rw [skipOut]

/-- A list goes on behind a comma. -/
lemma skipOut_comma (h : skipSpace cs = ',' :: r) (stack : List Frame) :
    skipOut (.list :: stack) cs = skipInto (.list :: stack) r := by
  rw [skipOut]
  split
  next he => rw [h] at he; cases he
  next he =>
    rw [h] at he
    cases he
    rfl

/-- A list ends with its bracket. -/
lemma skipOut_listEnd (h : skipSpace cs = ']' :: r) (stack : List Frame) :
    skipOut (.list :: stack) cs = skipOut stack r := by
  rw [skipOut]
  split
  next he => rw [h] at he; cases he
  next he =>
    rw [h] at he
    cases he
    rfl

/-- An object goes on behind a comma and a key. -/
lemma skipOut_key (h : skipSpace cs = ',' :: r) (hk : skipKey r = .ok rest) (stack : List Frame) :
    skipOut (.object :: stack) cs = skipInto (.object :: stack) rest := by
  rw [skipOut]
  split
  next he => rw [h] at he; cases he
  next he =>
    rw [h] at he
    cases he
    dsimp only
    rw [if_pos rfl]
    split
    next hs => rw [hk] at hs; cases hs
    next hs =>
      rw [hk] at hs
      cases hs
      rfl

/-- An object ends with its brace. -/
lemma skipOut_objectEnd (h : skipSpace cs = c :: r) (hc : c.toNat = 0x7D) (stack : List Frame) :
    skipOut (.object :: stack) cs = skipOut stack r := by
  have hcomma : c ≠ ',' := by
    rintro rfl
    revert hc
    decide
  rw [skipOut]
  split
  next he => rw [h] at he; cases he
  next he =>
    rw [h] at he
    cases he
    dsimp only
    rw [if_neg hcomma, if_pos hc]

end Steps

/-! ### Values -/

/-- What is passed over as a scalar is passed over in a longer text. -/
lemma map_none_append {skip : Except Fault (List Char)} {skip' : Except Fault (List Char)}
    {frame : Option Frame} {more : List Char} (h : skip.map (none, ·) = .ok (frame, rest))
    (hskip : skip = .ok rest → skip' = .ok (rest ++ more)) :
    skip'.map (none, ·) = .ok (frame, rest ++ more) := by
  obtain ⟨r, hr, heq⟩ := exists_of_map_eq_ok h
  cases heq
  rw [hskip hr]
  rfl

lemma skipStart_append {frame : Option Frame} (h : skipStart cs = .ok (frame, rest))
    (hrest : rest ≠ []) (more : List Char) :
    skipStart (cs ++ more) = .ok (frame, rest ++ more) := by
  rw [skipStart] at h
  split at h
  next => cases h
  next c r hr =>
    rw [skipStart, skipSpace_append hr]
    dsimp only
    split_ifs at h with hlist hobject hstring hn ht hf hminus hdigit
    · cases h
      rw [if_pos hlist]
    · cases h
      rw [if_neg hlist, if_pos hobject]
    · rw [if_neg hlist, if_neg hobject, if_pos hstring]
      exact map_none_append h fun h => skipString_append h more
    · rw [if_neg hlist, if_neg hobject, if_neg hstring, if_pos hn]
      exact map_none_append h fun h => readWord_append h more
    · rw [if_neg hlist, if_neg hobject, if_neg hstring, if_neg hn, if_pos ht]
      exact map_none_append h fun h => readWord_append h more
    · rw [if_neg hlist, if_neg hobject, if_neg hstring, if_neg hn, if_neg ht, if_pos hf]
      exact map_none_append h fun h => readWord_append h more
    · rw [if_neg hlist, if_neg hobject, if_neg hstring, if_neg hn, if_neg ht, if_neg hf,
        if_pos hminus]
      exact map_none_append h fun h => skipNumber_append h hrest more
    · rw [if_neg hlist, if_neg hobject, if_neg hstring, if_neg hn, if_neg ht, if_neg hf,
        if_neg hminus, if_pos hdigit]
      exact map_none_append h fun h => skipNumber_append h hrest more

lemma skipColon_append (h : skipColon cs = .ok rest) (more : List Char) :
    skipColon (cs ++ more) = .ok (rest ++ more) := by
  rw [skipColon] at h
  split at h
  next => cases h
  next c r hr =>
    rw [skipColon, skipSpace_append hr]
    dsimp only
    split at h
    next hc =>
      cases h
      rw [if_pos hc]
    next => cases h

lemma skipKey_append (h : skipKey cs = .ok rest) (more : List Char) :
    skipKey (cs ++ more) = .ok (rest ++ more) := by
  rw [skipKey] at h
  split at h
  next => cases h
  next c r hr =>
    rw [skipKey, skipSpace_append hr]
    dsimp only
    split at h
    next hc =>
      rw [if_pos hc]
      split at h
      next => cases h
      next r' hs =>
        rw [skipString_append hs]
        exact skipColon_append h more
    next => cases h

/-- What is not used up by what follows was not empty. -/
lemma ne_nil_of_skipOut {stack : List Frame} (h : skipOut stack r = .ok rest) (hrest : rest ≠ []) :
    r ≠ [] := by
  rintro rfl
  exact hrest (List.eq_nil_of_length_eq_zero (Nat.le_zero.1 (length_skipOut_le h)))

mutual

/-- A value inside of some frames is passed over with them in every longer text, if something stands
behind it. -/
theorem skipInto_append {stack : List Frame} {cs rest : List Char}
    (h : skipInto stack cs = .ok rest) (hrest : rest ≠ []) (more : List Char) :
    skipInto stack (cs ++ more) = .ok (rest ++ more) := by
  rw [skipInto] at h
  split at h
  next => cases h
  next r hs =>
    have := length_skipStart_lt hs
    have hr := ne_nil_of_skipOut h hrest
    rw [skipInto_scalar (skipStart_append hs hr more), skipOut_append h hrest more]
  next r hs =>
    have := length_skipStart_lt hs
    split at h
    next => cases h
    next c r' hr =>
      have := length_lt_of_skipSpace hr
      have hlist := skipStart_append hs (by rintro rfl; cases hr) more
      split at h
      next hc =>
        subst hc
        rw [skipInto_emptyList hlist (skipSpace_append hr more), skipOut_append h hrest more]
      next hc =>
        rw [skipInto_list hlist (skipSpace_append hr more) hc, skipInto_append h hrest more]
  next r hs =>
    have := length_skipStart_lt hs
    split at h
    next => cases h
    next c r' hr =>
      have := length_lt_of_skipSpace hr
      have hobject := skipStart_append hs (by rintro rfl; cases hr) more
      split at h
      next hc =>
        rw [skipInto_emptyObject hobject (skipSpace_append hr more) hc,
          skipOut_append h hrest more]
      next hc =>
        split at h
        next => cases h
        next rest' hk =>
          have := length_skipKey_lt hk
          rw [skipInto_object hobject (skipSpace_append hr more) hc (skipKey_append hk more),
            skipInto_append h hrest more]
termination_by cs.length

/-- What some frames still hold is passed over in every longer text, if something stands behind
it. -/
theorem skipOut_append {stack : List Frame} {cs rest : List Char}
    (h : skipOut stack cs = .ok rest) (hrest : rest ≠ []) (more : List Char) :
    skipOut stack (cs ++ more) = .ok (rest ++ more) := by
  cases stack with
  | nil =>
    rw [skipOut_nil] at h
    cases h
    exact skipOut_nil _
  | cons frame stack =>
    unfold skipOut at h
    dsimp only at h
    split at h
    next => cases frame <;> cases h
    next c r hr =>
      have := length_lt_of_skipSpace hr
      have hspace := skipSpace_append hr more
      cases frame with
      | list =>
        dsimp only at h
        split at h
        next hc =>
          subst hc
          rw [skipOut_comma hspace, skipInto_append h hrest more]
        next =>
          split at h
          next hc =>
            subst hc
            rw [skipOut_listEnd hspace, skipOut_append h hrest more]
          next => cases h
      | object =>
        dsimp only at h
        split at h
        next hc =>
          subst hc
          split at h
          next => cases h
          next rest' hk =>
            have := length_skipKey_lt hk
            rw [skipOut_key hspace (skipKey_append hk more), skipInto_append h hrest more]
        next =>
          split at h
          next hc => rw [skipOut_objectEnd hspace hc, skipOut_append h hrest more]
          next => cases h
termination_by cs.length

end

/-- **A value that is passed over, with something behind it, is passed over in every longer text.** -/
theorem skipValue_append (h : skipValue cs = .ok rest) (hrest : rest ≠ []) (more : List Char) :
    skipValue (cs ++ more) = .ok (rest ++ more) :=
  skipInto_append h hrest more

end Screening.Json
