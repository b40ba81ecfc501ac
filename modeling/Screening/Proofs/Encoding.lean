/-
Reading back the bytes of a text.

A character is written in one to four bytes by the size of its code point. The first byte says how
many there are, and the range that the second one has to lie in leaves out exactly what is shorter
in fewer bytes, no character, or too large; so what is written is read back, whatever follows it, and
nothing else is read.

* `Utf8.next_utf8EncodeChar`: one character.
* `Utf8.decode?_encode`, `Utf8.decode?_ofString`: whole texts.
* `Utf8.decode?_eq_some_iff`: nothing else is read.
* `Utf8.decode?_of_prefix`: texts of which only the first bytes are left.
-/
import Mathlib.Data.List.Infix
import Screening.Text.Utf8

namespace Screening.Utf8

/-! ### Bytes -/

/-- The number of a byte that is written as a number below 256. -/
lemma toNat_ofNat {n : ℕ} (h : n < 256) : (UInt8.ofNat n).toNat = n :=
  UInt8.toNat_ofNat_of_lt' h

lemma lead?_one {k : ℕ} (h : k < 0x80) : lead? (UInt8.ofNat k) = some (1, k) := by
  rw [lead?, toNat_ofNat (by omega)]
  exact if_pos h

lemma lead?_two {k : ℕ} (h : 2 ≤ k) (h' : k < 32) :
    lead? (UInt8.ofNat (k + 0xC0)) = some (2, k) := by
  rw [lead?, toNat_ofNat (by omega)]
  simp only [if_neg (show ¬k + 0xC0 < 0x80 by omega),
    if_pos (show 0xC2 ≤ k + 0xC0 ∧ k + 0xC0 ≤ 0xDF by omega), Nat.add_sub_cancel]

lemma lead?_three {k : ℕ} (h : k < 16) : lead? (UInt8.ofNat (k + 0xE0)) = some (3, k) := by
  rw [lead?, toNat_ofNat (by omega)]
  simp only [if_neg (show ¬k + 0xE0 < 0x80 by omega),
    if_neg (show ¬(0xC2 ≤ k + 0xE0 ∧ k + 0xE0 ≤ 0xDF) by omega),
    if_pos (show 0xE0 ≤ k + 0xE0 ∧ k + 0xE0 ≤ 0xEF by omega), Nat.add_sub_cancel]

lemma lead?_four {k : ℕ} (h : k < 5) : lead? (UInt8.ofNat (k + 0xF0)) = some (4, k) := by
  rw [lead?, toNat_ofNat (by omega)]
  simp only [if_neg (show ¬k + 0xF0 < 0x80 by omega),
    if_neg (show ¬(0xC2 ≤ k + 0xF0 ∧ k + 0xF0 ≤ 0xDF) by omega),
    if_neg (show ¬(0xE0 ≤ k + 0xF0 ∧ k + 0xF0 ≤ 0xEF) by omega),
    if_pos (show 0xF0 ≤ k + 0xF0 ∧ k + 0xF0 ≤ 0xF4 by omega), Nat.add_sub_cancel]

/-- The range of the byte after one of a number. -/
lemma secondRange_ofNat {n : ℕ} (h : n < 256) :
    secondRange (UInt8.ofNat n) =
      if n = 0xE0 then (0xA0, 0xBF)
      else if n = 0xED then (0x80, 0x9F)
      else if n = 0xF0 then (0x90, 0xBF)
      else if n = 0xF4 then (0x80, 0x8F)
      else (0x80, 0xBF) := by
  simp only [secondRange, ← UInt8.toNat_inj, toNat_ofNat h]
  rfl

/-- A continuation byte adds its six bits. -/
lemma tail_cons {bits low high count k : ℕ} {bs : List UInt8} (hk : k < 64)
    (hlow : low ≤ k + 0x80) (hhigh : k + 0x80 ≤ high) :
    tail bits low high (count + 1) (UInt8.ofNat (k + 0x80) :: bs) =
      tail (bits * 64 + k) 0x80 0xBF count bs := by
  rw [tail, toNat_ofNat (by omega), if_pos ⟨hlow, hhigh⟩, Nat.add_sub_cancel]

/-- Without more continuation bytes the character is complete. -/
lemma tail_zero {bits low high : ℕ} {c : Char} (bs : List UInt8) (h : bits = c.toNat) :
    tail bits low high 0 bs = (some c, bs) := by
  rw [tail, h, Char.ofNat_toNat]

/-! ### Characters -/

/-- The bytes of a character are read as the character, whatever follows them. -/
lemma next_utf8EncodeChar (c : Char) (rest : List UInt8) :
    ∃ b bs, String.utf8EncodeChar c = b :: bs ∧ next b (bs ++ rest) = (some c, rest) := by
  have hvalid : c.toNat < 0xD800 ∨ 0xDFFF < c.toNat ∧ c.toNat < 0x110000 := c.valid
  have hn : c.val.toNat = c.toNat := rfl
  rw [String.utf8EncodeChar]
  simp only [hn]
  split_ifs with h₁ h₂ h₃
  · refine ⟨_, _, rfl, ?_⟩
    rw [next, lead?_one (by omega)]
    exact tail_zero rest rfl
  · refine ⟨_, _, rfl, ?_⟩
    rw [next, lead?_two (by omega) (by omega), secondRange_ofNat (by omega)]
    show tail _ _ _ (0 + 1) (_ :: rest) = _
    split_ifs <;>
      rw [tail_cons (by omega) (by omega) (by omega)] <;>
      exact tail_zero rest (by omega)
  -- of three bytes the second keeps out shorter forms and surrogates
  · refine ⟨_, _, rfl, ?_⟩
    rw [next, lead?_three (by omega), secondRange_ofNat (by omega)]
    show tail _ _ _ (0 + 1 + 1) (_ :: _ :: rest) = _
    split_ifs <;>
      rw [tail_cons (by omega) (by omega) (by omega),
        tail_cons (by omega) (by omega) (by omega)] <;>
      exact tail_zero rest (by omega)
  -- of four bytes it keeps out shorter forms and what is above the last code point
  · refine ⟨_, _, rfl, ?_⟩
    rw [next, lead?_four (by omega), secondRange_ofNat (by omega)]
    show tail _ _ _ (0 + 1 + 1 + 1) (_ :: _ :: _ :: rest) = _
    split_ifs <;>
      rw [tail_cons (by omega) (by omega) (by omega), tail_cons (by omega) (by omega) (by omega),
        tail_cons (by omega) (by omega) (by omega)] <;>
      exact tail_zero rest (by omega)

/-! ### Texts -/

/-- The bytes of a text are its characters, one piece each, whatever follows them. -/
lemma pieces_encode_append (cs : List Char) (rest : List UInt8) :
    pieces (encode cs ++ rest) = cs.map some ++ pieces rest := by
  induction cs with
  | nil => rfl
  | cons c cs ih =>
    obtain ⟨b, bs, hbytes, hnext⟩ := next_utf8EncodeChar c (encode cs ++ rest)
    have hcons : encode (c :: cs) ++ rest = b :: (bs ++ (encode cs ++ rest)) := by
      rw [encode, List.flatMap_cons, hbytes, List.append_assoc]
      rfl
    rw [hcons, pieces, hnext, ih]
    rfl

lemma pieces_encode (cs : List Char) : pieces (encode cs) = cs.map some := by
  rw [← List.append_nil (encode cs), pieces_encode_append, pieces, List.append_nil]

/-- The bytes of a text are read back as its characters. -/
lemma decode?_encode (cs : List Char) : decode? (encode cs) = some cs := by
  rw [decode?, pieces_encode]
  induction cs with
  | nil => rfl
  | cons c cs ih => rw [List.map_cons, List.mapM_cons, ih]; rfl

lemma decode?_ofString (s : String) : decode? (ofString s) = some s.toList :=
  decode?_encode s.toList

/-! ### What is read -/

/-- The first byte of a sequence, by the number of its bytes. -/
lemma lead?_cases {b : UInt8} {length bits : ℕ} (h : lead? b = some (length, bits)) :
    (length = 1 ∧ b.toNat = bits ∧ bits < 0x80) ∨
      (length = 2 ∧ b.toNat = bits + 0xC0 ∧ 2 ≤ bits ∧ bits < 32) ∨
      (length = 3 ∧ b.toNat = bits + 0xE0 ∧ bits < 16) ∨
      (length = 4 ∧ b.toNat = bits + 0xF0 ∧ bits < 5) := by
  simp only [lead?] at h
  split_ifs at h <;> cases h <;> omega

/-- The second byte is a continuation byte, and after some first bytes not every one. -/
lemma secondRange_bounds (b : UInt8) :
    0x80 ≤ (secondRange b).1 ∧ (secondRange b).2 ≤ 0xBF ∧
      (b.toNat = 0xE0 → 0xA0 ≤ (secondRange b).1) ∧ (b.toNat = 0xED → (secondRange b).2 ≤ 0x9F) ∧
      (b.toNat = 0xF0 → 0x90 ≤ (secondRange b).1) ∧
      (b.toNat = 0xF4 → (secondRange b).2 ≤ 0x8F) := by
  obtain ⟨n, hn, rfl⟩ : ∃ n, n < 256 ∧ UInt8.ofNat n = b := ⟨_, b.toNat_lt, UInt8.ofNat_toNat⟩
  rw [secondRange_ofNat hn, toNat_ofNat hn]
  split_ifs <;> dsimp only <;> omega

/-- A continuation byte that is read lies in its range and adds its bits. -/
lemma tail_succ_eq_some {bits low high count : ℕ} {bs rest : List UInt8} {c : Char}
    (h : tail bits low high (count + 1) bs = (some c, rest)) :
    ∃ b bs', bs = b :: bs' ∧ low ≤ b.toNat ∧ b.toNat ≤ high ∧
      tail (bits * 64 + (b.toNat - 0x80)) 0x80 0xBF count bs' = (some c, rest) := by
  cases bs with
  | nil => cases h
  | cons b bs =>
    rw [tail] at h
    split at h
    next hb => exact ⟨b, bs, rfl, hb.1, hb.2, h⟩
    next => cases h

lemma tail_zero_eq_some {bits low high : ℕ} {bs rest : List UInt8} {c : Char}
    (h : tail bits low high 0 bs = (some c, rest)) : Char.ofNat bits = c ∧ bs = rest := by
  rw [tail, Prod.mk.injEq, Option.some.injEq] at h
  exact h

/-- A number that is a code point is the one of its character. -/
lemma toNat_charOfNat {n : ℕ} (h : n < 0xD800 ∨ 0xDFFF < n ∧ n < 0x110000) :
    (Char.ofNat n).val.toNat = n := by
  have hvalid : n.isValidChar := h
  rw [Char.ofNat, dif_pos hvalid]
  exact UInt32.toNat_ofNatLT

lemma ofNat_eq {b : UInt8} {n : ℕ} (h : b.toNat = n) : UInt8.ofNat n = b := by
  rw [← h, UInt8.ofNat_toNat]

/-- The bytes that a character is read from are those that it is written in. -/
lemma utf8EncodeChar_of_next {b : UInt8} {bs rest : List UInt8} {c : Char}
    (h : next b bs = (some c, rest)) : b :: bs = String.utf8EncodeChar c ++ rest := by
  rw [next] at h
  split at h
  next => cases h
  next length bits hlead =>
    -- the bounds of the second byte keep the number among those that take this many bytes
    obtain ⟨hlow, hhigh, hE0, hED, hF0, hF4⟩ := secondRange_bounds b
    obtain ⟨rfl, hb, hbits⟩ | ⟨rfl, hb, hbits, hbits'⟩ | ⟨rfl, hb, hbits⟩ | ⟨rfl, hb, hbits⟩ :=
      lead?_cases hlead
    · obtain ⟨rfl, rfl⟩ := tail_zero_eq_some h
      rw [String.utf8EncodeChar, toNat_charOfNat (by omega), if_pos (by omega), ofNat_eq hb]
      rfl
    · obtain ⟨b₁, bs, rfl, hl₁, hh₁, h⟩ := tail_succ_eq_some h
      obtain ⟨rfl, rfl⟩ := tail_zero_eq_some h
      rw [String.utf8EncodeChar, toNat_charOfNat (by omega), if_neg (by omega), if_pos (by omega),
        ofNat_eq (b := b) (by omega), ofNat_eq (b := b₁) (by omega)]
      rfl
    · obtain ⟨b₁, bs, rfl, hl₁, hh₁, h⟩ := tail_succ_eq_some h
      obtain ⟨b₂, bs, rfl, hl₂, hh₂, h⟩ := tail_succ_eq_some h
      obtain ⟨rfl, rfl⟩ := tail_zero_eq_some h
      rw [String.utf8EncodeChar, toNat_charOfNat (by omega), if_neg (by omega), if_neg (by omega),
        if_pos (by omega), ofNat_eq (b := b) (by omega), ofNat_eq (b := b₁) (by omega),
        ofNat_eq (b := b₂) (by omega)]
      rfl
    · obtain ⟨b₁, bs, rfl, hl₁, hh₁, h⟩ := tail_succ_eq_some h
      obtain ⟨b₂, bs, rfl, hl₂, hh₂, h⟩ := tail_succ_eq_some h
      obtain ⟨b₃, bs, rfl, hl₃, hh₃, h⟩ := tail_succ_eq_some h
      obtain ⟨rfl, rfl⟩ := tail_zero_eq_some h
      rw [String.utf8EncodeChar, toNat_charOfNat (by omega), if_neg (by omega), if_neg (by omega),
        if_neg (by omega), ofNat_eq (b := b) (by omega), ofNat_eq (b := b₁) (by omega),
        ofNat_eq (b := b₂) (by omega), ofNat_eq (b := b₃) (by omega)]
      rfl

/-- The characters of bytes: the first one, and those of the bytes after it. -/
lemma decode?_cons (b : UInt8) (bs : List UInt8) :
    decode? (b :: bs) =
      (next b bs).1.bind fun c => (decode? (next b bs).2).map fun cs => c :: cs := by
  rw [decode?, pieces, List.mapM_cons]
  cases (next b bs).1 with
  | none => rfl
  | some c =>
    show ((pieces (next b bs).2).mapM id).bind _ = _
    rw [decode?]
    cases (pieces (next b bs).2).mapM id <;> rfl

/-- **UTF-8.** The bytes that are read as some characters are exactly those that they are written
in. -/
theorem decode?_eq_some_iff {bs : List UInt8} {cs : List Char} :
    decode? bs = some cs ↔ encode cs = bs := by
  refine ⟨fun h => ?_, fun h => h ▸ decode?_encode cs⟩
  induction bs using pieces.induct generalizing cs with
  | case1 =>
    rw [decode?, pieces] at h
    cases h
    rfl
  | case2 b bs ih =>
    rw [decode?_cons, Option.bind_eq_some_iff] at h
    obtain ⟨c, hc, h⟩ := h
    obtain ⟨cs, hcs, rfl⟩ := Option.map_eq_some_iff.1 h
    rw [utf8EncodeChar_of_next (Prod.ext hc rfl : next b bs = (some c, _)), encode,
      List.flatMap_cons]
    exact congrArg (String.utf8EncodeChar c ++ ·) (ih hcs)

/-- **Torn texts.** The first bytes of a text are those of its first characters, or no text. -/
theorem decode?_of_prefix {bs : List UInt8} {cs cs' : List Char} (hpart : bs <+: encode cs)
    (h : decode? bs = some cs') : cs' <+: cs ∧ encode cs' = bs := by
  have hencode := decode?_eq_some_iff.1 h
  obtain ⟨rest, hrest⟩ := hpart
  have hpieces : cs'.map some ++ pieces rest = cs.map some := by
    rw [← pieces_encode_append, hencode, hrest, pieces_encode]
  obtain ⟨first, hfirst, hmap⟩ := List.prefix_map_iff.1 ⟨_, hpieces⟩
  obtain rfl : cs' = first := List.map_injective_iff.2 (fun _ _ => Option.some.inj) hmap
  exact ⟨hfirst, hencode⟩

/-- The bytes of texts are those that can be read. -/
lemma isSome_decode?_iff {bs : List UInt8} : (decode? bs).isSome ↔ ∃ s, bs = ofString s := by
  rw [Option.isSome_iff_exists]
  constructor
  · rintro ⟨cs, hcs⟩
    exact ⟨String.ofList cs, by rw [ofString, String.toList_ofList, decode?_eq_some_iff.1 hcs]⟩
  · rintro ⟨s, rfl⟩
    exact ⟨_, decode?_ofString s⟩

end Screening.Utf8
