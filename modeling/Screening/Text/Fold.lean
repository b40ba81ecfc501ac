/-
Comparison that ignores case.

Two texts are compared through their full Unicode uppercase. One character may become several
(`ß` becomes `SS`), so folding is a homomorphism from characters to texts and not a map, and
`ß` equals `ss`. An entry to compare with that is blank matches nothing; the white space of any
other entry counts.

* `toList_fold_append`: folding goes through an append.
* `occursIn_iff_infix`, `containsFolded_iff`: what the tests of occurrence decide.
-/
import Screening.Text.Space
import Screening.Text.UpperTable

namespace Screening.Text

/-! ### Uppercase -/

/-- The run of `shifts` that a code point belongs to; runs increase, so the first run that ends at
or after it is the only one that can hold it. -/
def findShift (n : Nat) : List Shift → Option Shift
  | [] => none
  | s :: rest =>
    if n ≤ s.last then
      if s.first ≤ n ∧ (n - s.first) % s.step = 0 then some s else none
    else findShift n rest

/-- The expansion of a code point, if it has one; code points increase in `expansions`. -/
def findExpansion (n : Nat) : List (Nat × List Nat) → Option (List Nat)
  | [] => none
  | (m, ns) :: rest =>
    if n ≤ m then if n = m then some ns else none
    else findExpansion n rest

/-- The full uppercase of a character: its expansion, its shifted self, or the character. -/
def upper (c : Char) : List Char :=
  match findExpansion c.toNat expansions with
  | some ns => ns.map Char.ofNat
  | none =>
    match findShift c.toNat shifts with
    | some s => [Char.ofNat (c.toNat + s.distance).toNat]
    | none => [c]

/-- The full uppercase of a text, through which texts are compared. -/
def fold (s : String) : String :=
  String.ofList (s.toList.flatMap upper)

@[simp] theorem toList_fold (s : String) : (fold s).toList = s.toList.flatMap upper := by
  simp [fold]

/-- Folding goes through an append. -/
theorem toList_fold_append (s t : String) :
    (fold (s ++ t)).toList = (fold s).toList ++ (fold t).toList := by
  simp

/-! ### Occurrence -/

/-- Whether the first list occurs as a contiguous part of the second. -/
def occursIn (part : List Char) : List Char → Bool
  | [] => part.isEmpty
  | c :: r => part.isPrefixOf (c :: r) || occursIn part r

/-- The test of occurrence decides the infix relation. -/
theorem occursIn_iff_infix {part whole : List Char} :
    occursIn part whole = true ↔ part <:+: whole := by
  induction whole with
  | nil => simp [occursIn]
  | cons c r ih => simp [occursIn, ih, List.infix_cons_iff]

/-- Whether the first text occurs in the second as it stands. -/
def occurs (part whole : String) : Bool :=
  occursIn part.toList whole.toList

/-! ### Matching an entry -/

/-- Whether an entry that is not blank occurs in a text, case ignored. -/
def containsFolded (text entry : String) : Bool :=
  !isBlank entry && occurs (fold entry) (fold text)

/-- An entry is found as its uppercase in the uppercase of the text. -/
theorem containsFolded_iff {text entry : String} :
    containsFolded text entry = true ↔
      isBlank entry = false ∧ (fold entry).toList <:+: (fold text).toList := by
  simp [containsFolded, occurs, occursIn_iff_infix]

/-- Whether an entry that is not blank is the whole text, case ignored. -/
def equalsFolded (text entry : String) : Bool :=
  !isBlank entry && fold text == fold entry

end Screening.Text
