/-
White space, blank texts and trimming.

White space is the Unicode property `White_Space`: the five controls from tab to carriage return,
the space, and the separators beyond ASCII. Zero-width characters, the byte order mark and the
information separators U+001C to U+001F are not in it.

* `trim_eq_empty_iff`: trimming leaves nothing exactly of the blank texts.
* `trim_trim`: trimming twice is trimming once.
-/

namespace Screening.Text

/-! ### The property -/

/-- The characters with the Unicode property `White_Space`. -/
def isSpace (c : Char) : Bool :=
  let n := c.toNat
  (9 ≤ n && n ≤ 13) || n == 0x20 || n == 0x85 || n == 0xA0 || n == 0x1680 ||
    (0x2000 ≤ n && n ≤ 0x200A) || n == 0x2028 || n == 0x2029 || n == 0x202F ||
    n == 0x205F || n == 0x3000

/-- A text is blank when it holds white space only; the empty text is blank. -/
def isBlank (s : String) : Bool :=
  s.toList.all isSpace

/-- A text is blank when each of its characters is white space. -/
theorem isBlank_iff {s : String} : isBlank s = true ↔ ∀ c ∈ s.toList, isSpace c = true :=
  List.all_eq_true

/-- A text that is not blank has a character that is no white space. -/
theorem isBlank_eq_false_iff {s : String} :
    isBlank s = false ↔ ∃ c ∈ s.toList, isSpace c = false := by
  simp [isBlank]

/-! ### Trimming -/

/-- A list of characters without the white space at its start. -/
def trimStart (cs : List Char) : List Char :=
  cs.dropWhile isSpace

/-- A list of characters without the white space at its end. -/
def trimEnd (cs : List Char) : List Char :=
  (trimStart cs.reverse).reverse

/-- A text without the white space at both ends. -/
def trim (s : String) : String :=
  String.ofList (trimEnd (trimStart s.toList))

@[simp] theorem toList_trim (s : String) : (trim s).toList = trimEnd (trimStart s.toList) := by
  simp [trim]

/-! ### Small facts -/

theorem trimStart_eq_nil_iff {cs : List Char} : trimStart cs = [] ↔ cs.all isSpace = true := by
  induction cs with
  | nil => simp [trimStart]
  | cons c r ih => by_cases h : isSpace c <;> simp_all [trimStart]

/-- A character in front is lost to end trimming only if it is white space with nothing after. -/
theorem trimEnd_cons (c : Char) (r : List Char) :
    trimEnd (c :: r) = if (trimEnd r).isEmpty && isSpace c then [] else c :: trimEnd r := by
  simp only [trimEnd, trimStart, List.reverse_cons, List.dropWhile_append]
  by_cases h : r.reverse.dropWhile isSpace = [] <;> by_cases hc : isSpace c <;>
    simp [h, hc]

theorem trimEnd_eq_nil_iff {cs : List Char} : trimEnd cs = [] ↔ cs.all isSpace = true := by
  simp [trimEnd, trimStart_eq_nil_iff]

/-- The two ends are trimmed independently. -/
theorem trimStart_trimEnd (cs : List Char) : trimStart (trimEnd cs) = trimEnd (trimStart cs) := by
  induction cs with
  | nil => rfl
  | cons c r ih =>
    by_cases hc : isSpace c
    · by_cases hr : trimEnd r = []
      · simp_all [trimEnd_cons, trimStart]
      · simp_all [trimEnd_cons, trimStart]
    · simp [trimEnd_cons, trimStart, hc]

theorem trimStart_trimStart (cs : List Char) : trimStart (trimStart cs) = trimStart cs := by
  induction cs with
  | nil => rfl
  | cons c r ih => by_cases h : isSpace c <;> simp_all [trimStart]

theorem trimEnd_trimEnd (cs : List Char) : trimEnd (trimEnd cs) = trimEnd cs := by
  simp [trimEnd, trimStart_trimStart]

/-- Only white space is dropped, so start trimming does not change whether all is white space. -/
theorem all_trimStart (cs : List Char) : (trimStart cs).all isSpace = cs.all isSpace := by
  induction cs with
  | nil => rfl
  | cons c r ih => by_cases h : isSpace c <;> simp_all [trimStart]

/-- Trimming leaves nothing exactly of the blank texts. -/
theorem trim_eq_empty_iff {s : String} : trim s = "" ↔ isBlank s = true := by
  rw [← String.toList_inj, toList_trim, isBlank, ← all_trimStart]
  simp [trimEnd_eq_nil_iff]

/-- Trimming twice is trimming once. -/
theorem trim_trim (s : String) : trim (trim s) = trim s := by
  simp [← String.toList_inj, trimStart_trimEnd, trimStart_trimStart, trimEnd_trimEnd]

end Screening.Text
