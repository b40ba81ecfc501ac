/-
Reading a date-time from its written form.

The form is `year-month-day` `T` `hour:minute:second`, the second with a fraction if a point
follows it at once. White space may stand before each number and each mark, and at the end. A year
has up to four digits, or any number of them after a sign; the other numbers have one or two. Of a
fraction nine digits count. A text that is not of this form, or names no day or time, is refused.

* `readDateTime?`: the date-time of a text.
-/
import Screening.Calendar.DateTime
import Screening.Text.Space

namespace Screening.Iso

open Text

/-- The value of a list of digits. -/
def digitsValue (digits : List Char) : Nat :=
  digits.foldl (fun n c => 10 * n + (c.toNat - 48)) 0

/-- Reads from one to `most` digits, after white space. -/
def readNumber? (most : Nat) (cs : List Char) : Option (Nat × List Char) :=
  let digits := ((trimStart cs).take most).takeWhile Char.isDigit
  if digits.isEmpty then none else some (digitsValue digits, (trimStart cs).drop digits.length)

/-- Reads a year, after white space. -/
def readYear? (cs : List Char) : Option (Int × List Char) :=
  match trimStart cs with
  | '+' :: r => signed r 1
  | '-' :: r => signed r (-1)
  | r => (readNumber? 4 r).map fun (n, rest) => ((n : Int), rest)
where
  signed (r : List Char) (sign : Int) : Option (Int × List Char) :=
    let digits := r.takeWhile Char.isDigit
    if digits.isEmpty then none else some (sign * digitsValue digits, r.drop digits.length)

/-- Reads a mark, after white space. -/
def readMark? (mark : Char) (cs : List Char) : Option (List Char) :=
  match trimStart cs with
  | c :: r => if c = mark then some r else none
  | [] => none

/-- Reads the fraction of a second as nanoseconds; zero if no point stands here. -/
def readFraction? (cs : List Char) : Option (Nat × List Char) :=
  match cs with
  | '.' :: r =>
    let digits := r.takeWhile Char.isDigit
    if digits.isEmpty then none
    else some (digitsValue ((digits.take 9).rightpad 9 '0'), r.drop digits.length)
  | _ => some (0, cs)

/-- The date-time that a list of characters writes. -/
def readChars? (cs : List Char) : Option DateTime := do
  let (year, cs) ← readYear? cs
  let cs ← readMark? '-' cs
  let (month, cs) ← readNumber? 2 cs
  let cs ← readMark? '-' cs
  let (day, cs) ← readNumber? 2 cs
  let cs ← readMark? 'T' cs
  let (hour, cs) ← readNumber? 2 cs
  let cs ← readMark? ':' cs
  let (minute, cs) ← readNumber? 2 cs
  let cs ← readMark? ':' cs
  let (second, cs) ← readNumber? 2 cs
  let (nanosecond, cs) ← readFraction? cs
  if trimStart cs ≠ [] then none
  let date ← Date.of? year month day
  let time ← Time.of? hour minute second nanosecond
  return ⟨date, time⟩

/-- The date-time that a text writes. -/
def readDateTime? (s : String) : Option DateTime :=
  readChars? s.toList

end Screening.Iso
