/-
The smallest parts of a JSON text: white space, strings and words.

A string is either decoded or passed over. Passing over accepts surrogate escapes in any order,
which name no character and so cannot be decoded. Every reader leaves a shorter rest.

* `readString`, `skipString`: a string after its opening quote.
* `length_readString_lt`, `length_skipString_lt`: what is left is shorter.
-/
import Screening.Json.Fault

namespace Screening.Json

/-! ### White space -/

/-- JSON's white space. -/
def isSpace (c : Char) : Bool :=
  c == ' ' || c == '\t' || c == '\n' || c == '\r'

/-- The text after the white space it starts with. -/
def skipSpace (cs : List Char) : List Char :=
  cs.dropWhile isSpace

theorem length_skipSpace_le (cs : List Char) : (skipSpace cs).length ≤ cs.length :=
  (List.dropWhile_sublist isSpace).length_le

/-- What follows the first character after white space is shorter. -/
theorem length_lt_of_skipSpace {cs r : List Char} {c : Char} (h : skipSpace cs = c :: r) :
    r.length < cs.length := by
  have hle := length_skipSpace_le cs
  rw [h] at hle
  exact hle

/-! ### Words -/

/-- Reads the letters of a word; a letter is compared by its first byte. -/
def readWord : List Char → List Char → Except Fault (List Char)
  | [], cs => .ok cs
  | _ :: _, [] => .error (.before .endInValue [])
  | w :: ws, c :: cs => if c = w then readWord ws cs else .error (.at .expectedIdent (c :: cs))

theorem length_readWord_le {word cs rest : List Char} (h : readWord word cs = .ok rest) :
    rest.length ≤ cs.length := by
  induction word generalizing cs with
  | nil => cases h; exact Nat.le_refl _
  | cons w ws ih =>
    cases cs with
    | nil => simp [readWord] at h
    | cons c cs =>
      rw [readWord] at h; split at h
      · exact Nat.le_succ_of_le (ih h)
      · cases h

/-! ### Escapes -/

/-- The value of a hexadecimal digit of either case. -/
def hexValue? (c : Char) : Option Nat :=
  let n := c.toNat
  if 48 ≤ n ∧ n ≤ 57 then some (n - 48)
  else if 65 ≤ n ∧ n ≤ 70 then some (n - 55)
  else if 97 ≤ n ∧ n ≤ 102 then some (n - 87)
  else none

/-- Reads four hexadecimal digits, looking at four bytes whatever they are. -/
def readHex (cs : List Char) : Except Fault (Nat × List Char) :=
  if Utf8.size (cs.take 4) < 4 then .error (.before .endInString [])
  else
    match (cs.take 4).mapM hexValue? with
    | some ds => .ok (ds.foldl (fun n d => 16 * n + d) 0, cs.drop 4)
    | none => .error (.within 4 .invalidEscape cs)

theorem length_readHex_le {cs rest : List Char} {n : Nat} (h : readHex cs = .ok (n, rest)) :
    rest.length ≤ cs.length := by
  rw [readHex] at h
  split at h
  · cases h
  · split at h
    · cases h; simp
    · cases h

/-- The character that a letter after a backslash stands for. -/
def escaped? (c : Char) : Option Char :=
  match c with
  | '"' => some '"'
  | '\\' => some '\\'
  | '/' => some '/'
  | 'b' => some '\x08'
  | 'f' => some '\x0c'
  | 'n' => some '\n'
  | 'r' => some '\r'
  | 't' => some '\t'
  | _ => none

/-- Whether a number is the second half of a surrogate pair. -/
def isTrailing (n : Nat) : Bool :=
  0xDC00 ≤ n && n ≤ 0xDFFF

/-- Whether a number is the first half of a surrogate pair. -/
def isLeading (n : Nat) : Bool :=
  0xD800 ≤ n && n ≤ 0xDBFF

/-- Reads the second half of a surrogate pair and puts the character together. -/
def readTrailing (leading : Nat) (cs : List Char) : Except Fault (Char × List Char) :=
  match cs with
  | [] => .error (.before .endInString [])
  | '\\' :: [] => .error (.before .endInString [])
  | '\\' :: 'u' :: r =>
    match readHex r with
    | .error e => .error e
    | .ok (n, rest) =>
      if isTrailing n then
        .ok (Char.ofNat (0x10000 + (leading - 0xD800) * 0x400 + (n - 0xDC00)), rest)
      else .error (.before .loneLeadingSurrogate rest)
  | '\\' :: r => .error (.at .unfinishedSurrogate r)
  | r => .error (.at .unfinishedSurrogate r)

theorem length_readTrailing_le {leading : Nat} {cs rest : List Char} {c : Char}
    (h : readTrailing leading cs = .ok (c, rest)) : rest.length ≤ cs.length := by
  unfold readTrailing at h
  split at h
  case h_3 r =>
    split at h
    · cases h
    next n rest' hr =>
      have := length_readHex_le hr
      split at h
      · simp only [Except.ok.injEq, Prod.mk.injEq] at h
        obtain ⟨-, rfl⟩ := h
        simp; omega
      · cases h
  all_goals cases h

/-- Reads an escape after its backslash. -/
def readEscape (cs : List Char) : Except Fault (Char × List Char) :=
  match cs with
  | [] => .error (.before .endInString [])
  | 'u' :: r =>
    match readHex r with
    | .error e => .error e
    | .ok (n, rest) =>
      if isTrailing n then .error (.before .loneLeadingSurrogate rest)
      else if isLeading n then readTrailing n rest
      else .ok (Char.ofNat n, rest)
  | c :: r =>
    match escaped? c with
    | some d => .ok (d, r)
    | none => .error (.at .invalidEscape (c :: r))

theorem length_readEscape_lt {cs rest : List Char} {c : Char}
    (h : readEscape cs = .ok (c, rest)) : rest.length < cs.length := by
  unfold readEscape at h
  split at h
  · cases h
  next r =>
    split at h
    · cases h
    next n rest' hr =>
      have := length_readHex_le hr
      split at h
      · cases h
      · split at h
        · have := length_readTrailing_le h
          simp; omega
        · cases h; simp; omega
  next r _ =>
    split at h
    · cases h; simp
    · cases h

/-- Passes over an escape after its backslash. -/
def skipEscape (cs : List Char) : Except Fault (List Char) :=
  match cs with
  | [] => .error (.before .endInString [])
  | 'u' :: r => (readHex r).map (·.2)
  | c :: r => if (escaped? c).isSome then .ok r else .error (.at .invalidEscape (c :: r))

theorem length_skipEscape_lt {cs rest : List Char} (h : skipEscape cs = .ok rest) :
    rest.length < cs.length := by
  unfold skipEscape at h
  split at h
  · cases h
  next r =>
    cases hr : readHex r with
    | error e => simp [hr, Except.map] at h
    | ok p =>
      obtain ⟨n, rest'⟩ := p
      have := length_readHex_le hr
      simp [hr, Except.map] at h
      subst h; simp; omega
  · split at h
    · cases h; simp
    · cases h

/-! ### Strings -/

/-- Reads the characters of a string up to and with its closing quote. -/
def readString (cs : List Char) : Except Fault (List Char × List Char) :=
  match cs with
  | [] => .error (.before .endInString [])
  | '"' :: r => .ok ([], r)
  | '\\' :: r =>
    match h : readEscape r with
    | .error e => .error e
    | .ok (c, rest) =>
      have : rest.length < r.length := length_readEscape_lt h
      (readString rest).map fun (s, rest) => (c :: s, rest)
  | c :: r =>
    if c.toNat < 0x20 then .error (.before .controlCharacter r)
    else (readString r).map fun (s, rest) => (c :: s, rest)
termination_by cs.length

/-- Passes over a string up to and with its closing quote. -/
def skipString (cs : List Char) : Except Fault (List Char) :=
  match cs with
  | [] => .error (.before .endInString [])
  | '"' :: r => .ok r
  | '\\' :: r =>
    match h : skipEscape r with
    | .error e => .error e
    | .ok rest =>
      have : rest.length < r.length := length_skipEscape_lt h
      skipString rest
  | c :: r => if c.toNat < 0x20 then .error (.before .controlCharacter (c :: r)) else skipString r
termination_by cs.length

theorem length_readString_lt {cs s rest : List Char} (h : readString cs = .ok (s, rest)) :
    rest.length < cs.length := by
  fun_induction readString cs generalizing s with
  | case1 => cases h
  | case2 r => cases h; simp
  | case3 r e he => cases h
  | case4 r c rest' he hlt ih =>
    cases hr : readString rest' with
    | error e => simp [hr, Except.map] at h
    | ok p =>
      simp [hr, Except.map] at h
      have := ih (s := p.1) (by rw [hr, ← h.2])
      simp; omega
  | case5 c r _ _ hc => cases h
  | case6 c r _ _ hc ih =>
    cases hr : readString r with
    | error e => simp [hr, Except.map] at h
    | ok p =>
      simp [hr, Except.map] at h
      have := ih (s := p.1) (by rw [hr, ← h.2])
      simp; omega

theorem length_skipString_lt {cs rest : List Char} (h : skipString cs = .ok rest) :
    rest.length < cs.length := by
  fun_induction skipString cs with
  | case1 => cases h
  | case2 r => cases h; simp
  | case3 r e he => cases h
  | case4 r rest' he hlt ih => have := ih h; simp; omega
  | case5 c r _ _ hc => cases h
  | case6 c r _ _ hc ih => have := ih h; simp; omega

end Screening.Json
