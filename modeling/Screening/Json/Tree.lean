/-
JSON values to be written, and their two written forms.

The compact form has no white space. The indented form puts each element and each member on a line
of its own, two spaces further in than its bracket; an empty list or object stays on one line. In a
string the quote, the backslash and the controls are escaped, and nothing else.

* `Tree.compact`, `Tree.indented`: the two forms.
-/

namespace Screening.Json

/-- A JSON value made of strings, lists and objects. -/
inductive Tree where
  | text (s : String)
  | list (items : List Tree)
  | object (members : List (String × Tree))

/-! ### Strings -/

/-- A character as it stands inside of a JSON string. -/
def escape (c : Char) : List Char :=
  match c with
  | '"' => ['\\', '"']
  | '\\' => ['\\', '\\']
  | '\x08' => ['\\', 'b']
  | '\x0c' => ['\\', 'f']
  | '\n' => ['\\', 'n']
  | '\r' => ['\\', 'r']
  | '\t' => ['\\', 't']
  | c =>
    if c.toNat < 0x20 then '\\' :: 'u' :: (Nat.toDigits 16 c.toNat).leftpad 4 '0' else [c]

/-- A JSON string. -/
def writeString (s : String) : List Char :=
  '"' :: s.toList.flatMap escape ++ ['"']

/-! ### Layout -/

/-- What is written between the parts of a list or an object: how a line of some depth begins, and
what follows a colon. -/
structure Layout where
  line : Nat → List Char
  afterColon : List Char

/-- Everything on one line, without white space. -/
def Layout.compact : Layout where
  line _ := []
  afterColon := []

/-- One part a line, two spaces for each level. -/
def Layout.indented : Layout where
  line depth := '\n' :: List.replicate (2 * depth) ' '
  afterColon := [' ']

/-- Parts between two brackets, with commas between them. -/
def bracket (layout : Layout) (depth : Nat) (opening closing : Char) : List (List Char) → List Char
  | [] => [opening, closing]
  | part :: parts =>
    opening :: layout.line (depth + 1) ++ part ++
      parts.flatMap (fun part => ',' :: layout.line (depth + 1) ++ part) ++
      layout.line depth ++ [closing]

namespace Tree

mutual

/-- A value at some depth. -/
def write (layout : Layout) (depth : Nat) : Tree → List Char
  | text s => writeString s
  | list items => bracket layout depth '[' ']' (writeItems layout (depth + 1) items)
  | object members =>
    bracket layout depth (Char.ofNat 0x7B) (Char.ofNat 0x7D)
      (writeMembers layout (depth + 1) members)

/-- The elements of a list. -/
def writeItems (layout : Layout) (depth : Nat) : List Tree → List (List Char)
  | [] => []
  | item :: items => write layout depth item :: writeItems layout depth items

/-- The members of an object. -/
def writeMembers (layout : Layout) (depth : Nat) : List (String × Tree) → List (List Char)
  | [] => []
  | (key, value) :: members =>
    (writeString key ++ ':' :: layout.afterColon ++ write layout depth value) ::
      writeMembers layout depth members

end

/-- The form without white space. -/
def compact (tree : Tree) : String :=
  String.ofList (tree.write .compact 0)

/-- The form with one part a line. -/
def indented (tree : Tree) : String :=
  String.ofList (tree.write .indented 0)

/-- A list of strings. -/
def ofStrings (strings : List String) : Tree :=
  list (strings.map text)

end Tree

end Screening.Json
