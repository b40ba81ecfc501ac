/-
UTF-8 over lists of bytes.

Decoding reads one scalar value at a time. Where the bytes are not well formed, the longest
beginning of a well-formed sequence (at least one byte) is one broken piece; strict decoding refuses
the text then, lenient decoding writes U+FFFD for the piece.

* `decode?`: the characters of a well-formed text, none of any other.
* `decodeLossy`: the characters of any bytes, each broken piece as U+FFFD.
-/

namespace Screening.Utf8

/-! ### Writing -/

/-- The bytes of a list of characters. -/
def encode (cs : List Char) : List UInt8 :=
  cs.flatMap String.utf8EncodeChar

/-- The bytes of a text. -/
def ofString (s : String) : List UInt8 :=
  encode s.toList

/-- The number of bytes of a list of characters. -/
def size : List Char → Nat
  | [] => 0
  | c :: r => c.utf8Size + size r

/-! ### Reading -/

/-- The range that the second byte of a sequence must lie in, after its first byte. -/
def secondRange (b : UInt8) : Nat × Nat :=
  if b = 0xE0 then (0xA0, 0xBF)
  else if b = 0xED then (0x80, 0x9F)
  else if b = 0xF0 then (0x90, 0xBF)
  else if b = 0xF4 then (0x80, 0x8F)
  else (0x80, 0xBF)

/-- The length of the sequence that a first byte announces and the bits it contributes; none of a
byte that starts no sequence. -/
def lead? (b : UInt8) : Option (Nat × Nat) :=
  let n := b.toNat
  if n < 0x80 then some (1, n)
  else if 0xC2 ≤ n ∧ n ≤ 0xDF then some (2, n - 0xC0)
  else if 0xE0 ≤ n ∧ n ≤ 0xEF then some (3, n - 0xE0)
  else if 0xF0 ≤ n ∧ n ≤ 0xF4 then some (4, n - 0xF0)
  else none

/-- Reads `count` continuation bytes onto the bits so far, the first of them within `low` and
`high`. Gives the character, or none if a byte is missing or out of range, and the bytes after
what was read. -/
def tail (bits : Nat) (low high : Nat) : Nat → List UInt8 → Option Char × List UInt8
  | 0, bs => (some (Char.ofNat bits), bs)
  | _ + 1, [] => (none, [])
  | count + 1, b :: bs =>
    if low ≤ b.toNat ∧ b.toNat ≤ high then
      tail (bits * 64 + (b.toNat - 0x80)) 0x80 0xBF count bs
    else (none, b :: bs)

/-- Reads the character that a first byte and the bytes after it spell, or takes off one broken
piece. -/
def next (b : UInt8) (bs : List UInt8) : Option Char × List UInt8 :=
  match lead? b with
  | none => (none, bs)
  | some (length, bits) => tail bits (secondRange b).1 (secondRange b).2 (length - 1) bs

/-- Continuation bytes only take bytes off. -/
theorem length_tail_le (bits low high count : Nat) (bs : List UInt8) :
    (tail bits low high count bs).2.length ≤ bs.length := by
  induction bs generalizing bits low high count with
  | nil => cases count <;> simp [tail]
  | cons b bs ih =>
    cases count with
    | zero => simp [tail]
    | succ count =>
      rw [tail]; split
      · exact Nat.le_succ_of_le (ih ..)
      · simp

theorem length_next_le (b : UInt8) (bs : List UInt8) : (next b bs).2.length ≤ bs.length := by
  rw [next]; split
  · exact Nat.le_refl _
  · exact length_tail_le ..

/-- The pieces of a list of bytes: a character each, or none for a broken piece. -/
def pieces : List UInt8 → List (Option Char)
  | [] => []
  | b :: bs => (next b bs).1 :: pieces (next b bs).2
termination_by bs => bs.length
decreasing_by exact Nat.lt_succ_of_le (length_next_le b bs)

/-- The characters of a well-formed text; none if any piece is broken. -/
def decode? (bs : List UInt8) : Option (List Char) :=
  (pieces bs).mapM id

/-- The characters of any bytes, with U+FFFD for each broken piece. -/
def decodeLossy (bs : List UInt8) : List Char :=
  (pieces bs).map (·.getD (Char.ofNat 0xFFFD))

end Screening.Utf8
