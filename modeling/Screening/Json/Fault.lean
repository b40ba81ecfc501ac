/-
What can be wrong with a JSON text, and where.

A fault names its place by the number of bytes of the text that lie after it, so a reader needs to
carry nothing but the rest of the text. Once the whole text is known the place becomes a line and a
column, both counted in bytes.

* `Reason.message`: the wording of a fault.
* `Fault.locate`: the fault with its line and column.
-/
import Screening.Number.Shortest
import Screening.Text.Quoted
import Screening.Text.Utf8

namespace Screening.Json

/-! ### Reasons -/

/-- What stands where a value of another type was expected. -/
inductive Found where
  | null
  | boolean (b : Bool)
  | integer (n : Int)
  | float (x : Binary64)
  | string (s : String)
  | sequence
  | map
  deriving DecidableEq

/-- The text of a finite number that is not an integer: positional from `10 ^ -5` up to `10 ^ 16`,
always with a point; beyond that scientific. -/
def floatText (x : Binary64) : List Char :=
  let d := x.shortest .even
  let sign := if x.isNegative then ['-'] else []
  let whole := if 0 ≤ d.exponent then ['.', '0'] else []
  sign ++ if -5 < d.pointPlace ∧ d.pointPlace ≤ 16 then d.positional ++ whole else d.scientific

/-- A found value as a message names it. -/
def Found.text : Found → String
  | null => "null"
  | boolean b => String.ofList ("boolean ".toList ++ mark :: (toString b).toList ++ [mark])
  | integer n => String.ofList ("integer ".toList ++ mark :: (toString n).toList ++ [mark])
  | float x => String.ofList ("floating point ".toList ++ mark :: floatText x ++ [mark])
  | string s => "string " ++ Text.quote s
  | sequence => "sequence"
  | map => "map"
where
  /-- The mark around literal text. -/
  mark : Char := Char.ofNat 0x60

/-- What can be wrong with a JSON text. -/
inductive Reason where
  | endInValue
  | endInList
  | endInObject
  | endInString
  | expectedColon
  | expectedListCommaOrEnd
  | expectedObjectCommaOrEnd
  | expectedIdent
  | expectedValue
  | invalidEscape
  | invalidNumber
  | numberOutOfRange
  | loneLeadingSurrogate
  | unfinishedSurrogate
  | controlCharacter
  | keyNotString
  | trailingComma
  | trailingCharacters
  /-- A value of another type than the expected one, which is named as messages name it. -/
  | invalidType (found : Found) (expected : String)
  | duplicateField (name : String)
  deriving DecidableEq

/-- A piece of literal text as messages set it off. -/
def literal (s : String) : String :=
  String.ofList (Found.text.mark :: s.toList ++ [Found.text.mark])

/-- The wording of a reason. -/
def Reason.message : Reason → String
  | endInValue => "EOF while parsing a value"
  | endInList => "EOF while parsing a list"
  | endInObject => "EOF while parsing an object"
  | endInString => "EOF while parsing a string"
  | expectedColon => "expected " ++ literal ":"
  | expectedListCommaOrEnd => "expected " ++ literal "," ++ " or " ++ literal "]"
  | expectedObjectCommaOrEnd => "expected " ++ literal "," ++ " or " ++ literal "\x7d"
  | expectedIdent => "expected ident"
  | expectedValue => "expected value"
  | invalidEscape => "invalid escape"
  | invalidNumber => "invalid number"
  | numberOutOfRange => "number out of range"
  | loneLeadingSurrogate => "lone leading surrogate in hex escape"
  | unfinishedSurrogate => "unexpected end of hex escape"
  | controlCharacter => "control character (\\u0000-\\u001F) found while parsing a string"
  | keyNotString => "key must be a string"
  | trailingComma => "trailing comma"
  | trailingCharacters => "trailing characters"
  | invalidType found expected => "invalid type: " ++ found.text ++ ", expected " ++ expected
  | duplicateField name => "duplicate field " ++ literal name

/-! ### Places -/

/-- A reason, and the number of bytes of the text after the place it is reported at. -/
structure Fault where
  reason : Reason
  bytesLeft : Nat
  deriving DecidableEq

/-- A fault reported where the rest of the text begins. -/
def Fault.before (reason : Reason) (rest : List Char) : Fault :=
  ⟨reason, Utf8.size rest⟩

/-- A fault reported `bytes` bytes into the rest of the text, or at its end. -/
def Fault.within (bytes : Nat) (reason : Reason) (rest : List Char) : Fault :=
  ⟨reason, Utf8.size rest - bytes⟩

/-- A fault reported after the first byte of the rest of the text. -/
abbrev Fault.at (reason : Reason) (rest : List Char) : Fault :=
  Fault.within 1 reason rest

/-- A reason with the line and the column of its place: the number of line feeds before it and one
more, and the number of bytes after the last of them. -/
structure Error where
  reason : Reason
  line : Nat
  column : Nat
  deriving DecidableEq

/-- The place of a fault in its text. -/
def Fault.locate (text : List Char) (fault : Fault) : Error :=
  let before := (Utf8.encode text).take (Utf8.size text - fault.bytesLeft)
  { reason := fault.reason
    line := before.count 10 + 1
    column := (before.reverse.takeWhile (· ≠ 10)).length }

/-- The message of an error. -/
def Error.message (e : Error) : String :=
  e.reason.message ++ " at line " ++ toString e.line ++ " column " ++ toString e.column

end Screening.Json
