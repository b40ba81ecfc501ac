/-
Paths.

A path is a list of bytes. Slashes divide it into segments; an empty segment says nothing, and
neither does a dot except as the first segment. The last of the others is the name of the path
unless it is two dots, and what stands before it is the parent.

* `Path.parent?`, `Path.name?`: the two parts of a path.
* `Path.stem?`, `Path.extension?`: the name before its last dot, and after it.
-/
import Screening.Text.Utf8

namespace Screening

/-- A path as it is written. -/
structure Path where
  bytes : List UInt8
  deriving DecidableEq

namespace Path

/-- The path of a text. -/
def ofString (s : String) : Path :=
  ⟨Utf8.ofString s⟩

/-- The path as a text, with U+FFFD for what is not UTF-8. -/
def text (p : Path) : String :=
  String.ofList (Utf8.decodeLossy p.bytes)

/-! ### Segments -/

/-- A part of a path between slashes. -/
abbrev Segment := List UInt8

/-- The byte of a slash. -/
def slash : UInt8 := 0x2F

/-- The byte of a dot. -/
def dot : UInt8 := 0x2E

/-- The segments that slashes divide a list of bytes into. -/
def split : List UInt8 → List Segment
  | [] => [[]]
  | b :: bs =>
    if b = slash then [] :: split bs
    else
      match split bs with
      | [] => [[b]]
      | segment :: segments => (b :: segment) :: segments

/-- Segments with slashes between them. -/
def unsplit : List Segment → List UInt8
  | [] => []
  | [segment] => segment
  | segment :: segments => segment ++ slash :: unsplit segments

theorem split_ne_nil (bs : List UInt8) : split bs ≠ [] := by
  cases bs with
  | nil => simp [split]
  | cons b bs =>
    rw [split]; split
    · simp
    · split <;> simp

/-- One more segment in front. -/
theorem unsplit_cons {segment : Segment} {segments : List Segment} (h : segments ≠ []) :
    unsplit (segment :: segments) = segment ++ slash :: unsplit segments := by
  cases segments with
  | nil => exact absurd rfl h
  | cons => rfl

/-- Nothing is lost by dividing. -/
@[simp] theorem unsplit_split (bs : List UInt8) : unsplit (split bs) = bs := by
  induction bs with
  | nil => rfl
  | cons b bs ih =>
    rw [split]
    split
    next h => rw [unsplit_cons (split_ne_nil bs), ih, h, List.nil_append]
    · split
      next hs => exact absurd hs (split_ne_nil bs)
      next segment segments hs =>
        rw [hs] at ih
        cases segments with
        | nil => exact congrArg (b :: ·) ih
        | cons s t => exact congrArg (b :: ·) ih

/-- Whether a segment says nothing about where a path leads. -/
def isIdle (segment : Segment) : Bool :=
  segment = [] || segment = [dot]

/-- Whether a path starts at the root. -/
def isAbsolute (p : Path) : Bool :=
  p.bytes.head? = some slash

/-- The segments of a path. -/
def segments (p : Path) : List Segment :=
  split p.bytes

/-! ### Parts of a path -/

/-- What a path starts from: the slash of the root, a dot as the first segment, or nothing. -/
def base (p : Path) : List UInt8 :=
  match p.segments with
  | first :: rest =>
    if first = [dot] then [dot] else if first = [] ∧ rest ≠ [] then [slash] else []
  | [] => []

/-- The segments after the base, the last first, without idle ones at the end of the path. -/
def backward (p : Path) : List Segment :=
  ((split (p.bytes.drop p.base.length)).reverse).dropWhile isIdle

/-- The path before its last segment; none of a path without segments. -/
def parent? (p : Path) : Option Path :=
  match p.backward with
  | _ :: before => some ⟨p.base ++ unsplit (before.dropWhile isIdle).reverse⟩
  | [] => if p.base = [dot] then some ⟨[]⟩ else none

/-- The last segment unless it is two dots. -/
def name? (p : Path) : Option Segment :=
  match p.backward with
  | last :: _ => if last = [dot, dot] then none else some last
  | [] => none

/-- A name before and after its last dot. A dot at its beginning does not count. -/
def splitName (name : Segment) : Segment × Option Segment :=
  match name.reverse.dropWhile (· ≠ dot) with
  | _ :: b :: before =>
    ((b :: before).reverse, some (name.reverse.takeWhile (· ≠ dot)).reverse)
  | _ => (name, none)

/-- The name before its last dot. -/
def stem? (p : Path) : Option Segment :=
  p.name?.map fun name => (splitName name).1

/-- The name after its last dot. -/
def extension? (p : Path) : Option Segment :=
  p.name?.bind fun name => (splitName name).2

/-- A path below a directory; one that starts at the root stays as it is. -/
def join (directory p : Path) : Path :=
  if p.isAbsolute then p
  else if directory.bytes = [] ∨ directory.bytes.getLast? = some slash then
    ⟨directory.bytes ++ p.bytes⟩
  else ⟨directory.bytes ++ slash :: p.bytes⟩

/-- The names that lead along a path below the root, one more segment at a time. -/
def waypoints (p : Path) : List (List Segment) :=
  (p.segments.foldl
    (fun (passed, names) segment =>
      let next :=
        if isIdle segment then names
        else if segment = [dot, dot] then names.dropLast
        else names ++ [segment]
      (passed ++ [next], next))
    ([], [])).1

end Path

end Screening
