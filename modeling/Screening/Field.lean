/-
Named values inside of a search text.

A search text may hold values in the form `key=value|`. The key is found with the case of ASCII
letters ignored, a value is the longest run without a bar, and a value without a bar after it is
none. The text is read from the left, each value's search starting after the one before.

* `FieldKey`: the three keys of a report.
* `Field.extract`: the values of a key in a text.
-/
import Screening.Text.Space

namespace Screening

/-! ### The keys -/

/-- The values that a report shows. -/
inductive FieldKey where
  | matchName
  | denialType
  | splitId
  deriving DecidableEq

namespace FieldKey

/-- All keys in the order of their columns. -/
def all : List FieldKey :=
  [matchName, denialType, splitId]

/-- The key as search texts write it. -/
def name : FieldKey → String
  | matchName => "MatchName"
  | denialType => "DenialType"
  | splitId => "SPLID"

/-- The key as the columns of a report name it. -/
def label : FieldKey → String
  | matchName => "RPL"
  | denialType => "Denial Type"
  | splitId => "Splid"

end FieldKey

/-! ### Finding values -/

namespace Field

/-- The text after a key at its beginning. ASCII letters match in either case, and every other
character only itself. -/
def afterKey? : (key text : List Char) → Option (List Char)
  | [], cs => some cs
  | _ :: _, [] => none
  | k :: ks, c :: cs => if c.toLower = k.toLower then afterKey? ks cs else none

/-- The value that a text begins with, and the text after its bar. -/
def value? (key text : List Char) : Option (List Char × List Char) :=
  match afterKey? (key ++ ['=']) text with
  | none => none
  | some r =>
    match r.dropWhile (· ≠ '|') with
    | [] => none
    | _ :: rest => some (r.takeWhile (· ≠ '|'), rest)

theorem length_afterKey? {key text r : List Char} (h : afterKey? key text = some r) :
    r.length + key.length = text.length := by
  induction key generalizing text with
  | nil => cases h; rfl
  | cons k ks ih =>
    cases text with
    | nil => cases h
    | cons c cs =>
      rw [afterKey?] at h
      split at h
      · have := ih h; simp only [List.length_cons]; omega
      · cases h

theorem length_value?_lt {key text v rest : List Char} (h : value? key text = some (v, rest)) :
    rest.length < text.length := by
  rw [value?] at h
  split at h
  · cases h
  next r hr =>
    have := length_afterKey? hr
    split at h
    · cases h
    next hd =>
      cases h
      have := (List.dropWhile_sublist (l := r) fun c => decide (c ≠ '|')).length_le
      simp only [hd, List.length_cons] at this
      omega

/-- The values of a key, as they stand in the text. -/
def values (key text : List Char) : List (List Char) :=
  match text with
  | [] => []
  | c :: r =>
    match _h : value? key (c :: r) with
    | some (v, rest) => v :: values key rest
    | none => values key r
termination_by text.length
decreasing_by
  · exact length_value?_lt ‹_›
  · exact Nat.lt_succ_self _

/-- The values of a key, trimmed, without blank ones. A key without characters has none. -/
def extract (text key : String) : List String :=
  if key = "" then []
  else ((values key.toList text.toList).map fun v => Text.trim (String.ofList v)).filter (· ≠ "")

end Field

/-- The values of one of the keys of a report. -/
def FieldKey.extract (key : FieldKey) (text : String) : List String :=
  Field.extract text key.name

end Screening
