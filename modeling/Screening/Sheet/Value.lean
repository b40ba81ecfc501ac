/-
Values as a workbook stores them, and the cells they become.

Numbers, texts and flags stay what they are. A serial day number becomes a date-time, or its number
as text when it lies outside the calendar; a written date-time becomes a date-time, or stays a text
when it names none.

* `Value.toCell`: the cell of a stored value.
-/
import Screening.Calendar.Iso
import Screening.Calendar.Serial
import Screening.Sheet.Cell

namespace Screening

/-- The errors that a spreadsheet cell can hold. -/
inductive CellError where
  | divisionByZero
  | notAvailable
  | name
  | null
  | num
  | ref
  | value
  | gettingData
  deriving DecidableEq

/-- The name that a spreadsheet shows for an error. -/
def CellError.text : CellError → String
  | divisionByZero => "#DIV/0!"
  | notAvailable => "#N/A"
  | name => "#NAME?"
  | null => "#NULL!"
  | num => "#NUM!"
  | ref => "#REF!"
  | value => "#VALUE!"
  | gettingData => "#DATA!"

/-- A value as a workbook stores it. -/
inductive Value where
  | empty
  | text (s : String)
  | float (x : Binary64)
  | int (n : Int)
  | bool (b : Bool)
  /-- A number formatted as a date or a time. -/
  | dateTime (s : Serial)
  /-- A number formatted as a span of time. -/
  | duration (s : Serial)
  /-- A date-time in its written form. -/
  | isoDateTime (s : String)
  /-- A span of time in its written form. -/
  | isoDuration (s : String)
  | error (e : CellError)
  deriving DecidableEq

namespace Value

/-- Whether a value is there at all. -/
def isEmpty : Value → Bool
  | empty => true
  | _ => false

/-- The cell of a serial number: its date-time, or outside the calendar the number as text. -/
def serialCell (s : Serial) : Except Serial.Overflow Cell :=
  s.toDateTime?.map fun
    | some t => .dateTime t
    | none => .text s.days.text

/-- The cell of a stored value. Only the span of a serial number can be out of range. -/
def toCell : Value → Except Serial.Overflow Cell
  | empty => .ok .empty
  | text s => .ok (.text s)
  | float x => .ok (.float x)
  | int n => .ok (.int n)
  | bool b => .ok (.bool b)
  | dateTime s | duration s => serialCell s
  | isoDateTime s =>
    match Iso.readDateTime? s with
    | some t => .ok (.dateTime t)
    | none => .ok (.text s)
  | isoDuration s => .ok (.text s)
  | error e => .ok (.error e.text)

/-- The text of a stored value; a serial number out of range has none. -/
def shown (value : Value) : String :=
  match value.toCell with
  | .ok cell => cell.asText
  | .error _ => ""

end Value

end Screening
