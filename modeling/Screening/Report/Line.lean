/-
The line of a report that a row becomes.

Seven columns of a row are read. The line shows the customer's status, five of the columns as they
are, and the first values of each key found in the two search texts. A blank row becomes no line.

* `Line.ofRow?`: the line of a row.
* `Line.cells`: the texts of a line, one for each column of a report.
-/
import Screening.Field
import Screening.Sheet.Cell
import Screening.Status

namespace Screening

/-! ### The columns that are read -/

namespace Column

/-- The column of the file's name. -/
def file : Nat := 2

/-- The column of the reference number. -/
def reference : Nat := 3

/-- The column of the customer's name. -/
def customer : Nat := 8

/-- The column of the city. -/
def city : Nat := 11

/-- The column of the code. -/
def ctr : Nat := 14

/-- The column of the first search text. -/
def textA : Nat := 22

/-- The column of the second search text. -/
def textB : Nat := 26

end Column

/-- What a row says of its customer. -/
def Subject.ofRow (row : Row) : Subject where
  customer := row.get Column.customer
  ctr := row.get Column.ctr
  city := row.get Column.city
  textA := row.get Column.textA
  textB := row.get Column.textB

/-- Both search texts as one; the bars end a last value that has none of its own. -/
def combinedText (textA textB : String) : String :=
  textA ++ "|" ++ textB ++ "|"

/-! ### Slots -/

/-- The number of values of a key that a line shows. -/
def slotCount : Nat := 5

/-- The first values of a key, and empty texts after them. -/
abbrev Slots := Vector String slotCount

/-- The slots that a list of values fills. -/
def Slots.ofList (values : List String) : Slots :=
  .ofFn fun i => values.getD i ""

/-- The first values of a key in a search text. -/
def FieldKey.firstValues (key : FieldKey) (text : String) : List String :=
  (key.extract text).take slotCount

/-! ### Lines -/

/-- A line of a report. -/
structure Line where
  status : Status
  file : String
  reference : String
  customer : String
  city : String
  ctr : String
  matchNames : Slots
  denialTypes : Slots
  splitIds : Slots
  deriving DecidableEq

namespace Line

/-- The number of columns of a report. -/
def width : Nat := 1 + 5 + slotCount * 3

/-- The slots of a key. -/
def slots (line : Line) : FieldKey → Slots
  | .matchName => line.matchNames
  | .denialType => line.denialTypes
  | .splitId => line.splitIds

/-- The line of a row; none of a blank row. -/
def ofRow? (row : Row) (criteria : Criteria) : Option Line :=
  if row.isBlank then none
  else
    let subject := Subject.ofRow row
    let slots (key : FieldKey) : Slots :=
      .ofList (key.firstValues (combinedText subject.textA subject.textB))
    some
      { status := subject.status criteria
        file := row.get Column.file
        reference := row.get Column.reference
        customer := subject.customer
        city := subject.city
        ctr := subject.ctr
        matchNames := slots .matchName
        denialTypes := slots .denialType
        splitIds := slots .splitId }

/-- The texts of a line in the order of the columns. -/
def cells (line : Line) : List String :=
  [line.status.label, line.file, line.reference, line.customer, line.city, line.ctr] ++
    line.matchNames.toList ++ line.denialTypes.toList ++ line.splitIds.toList

/-- A line has a text for each column. -/
@[simp] theorem length_cells (line : Line) : line.cells.length = width := by
  simp [cells, width]; rfl

/-- Behind the other texts stand the slots of all keys in their order. -/
theorem cells_eq_flatMap (line : Line) :
    line.cells =
      [line.status.label, line.file, line.reference, line.customer, line.city, line.ctr] ++
        FieldKey.all.flatMap fun key => (line.slots key).toList := by
  simp [cells, FieldKey.all, slots]

/-- A row becomes no line iff it is blank. -/
theorem ofRow?_eq_none_iff {row : Row} {criteria : Criteria} :
    ofRow? row criteria = none ↔ row.isBlank = true := by
  rw [ofRow?]; split <;> simp_all

end Line

end Screening
