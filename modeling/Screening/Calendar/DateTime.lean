/-
Dates and times of the Gregorian calendar.

The calendar runs from year -262143 to year 262142 and has a year zero. A second of 60 is a leap
second. Days are counted from 1970-01-01.

* `Date.ofDays?`: the date a number of days after 1970-01-01.
* `DateTime.text`: the text of a date-time; at midnight the date alone.
-/

namespace Screening

/-! ### Dates -/

/-- Whether a year has a 29 February. -/
def isLeapYear (year : Int) : Bool :=
  year % 4 == 0 && (year % 100 != 0 || year % 400 == 0)

/-- The number of days of a month; none for a month outside 1 to 12. -/
def monthLength (year : Int) (month : Nat) : Nat :=
  match month with
  | 1 | 3 | 5 | 7 | 8 | 10 | 12 => 31
  | 4 | 6 | 9 | 11 => 30
  | 2 => if isLeapYear year then 29 else 28
  | _ => 0

/-- Whether year, month and day name a day of the calendar. -/
def IsDate (year : Int) (month day : Nat) : Prop :=
  -262143 ≤ year ∧ year ≤ 262142 ∧ 1 ≤ day ∧ day ≤ monthLength year month

instance (year : Int) (month day : Nat) : Decidable (IsDate year month day) :=
  inferInstanceAs (Decidable (_ ∧ _))

/-- A day of the calendar. -/
structure Date where
  year : Int
  month : Nat
  day : Nat
  isDate : IsDate year month day
  deriving DecidableEq

namespace Date

/-- The day of a year, month and day, if there is one. -/
def of? (year : Int) (month day : Nat) : Option Date :=
  if h : IsDate year month day then some ⟨year, month, day, h⟩ else none

/-- The day that lies `days` after 1970-01-01, if it is in the calendar. Years are taken from March
on, so that the leap day is the last of its year, in cycles of four hundred years. -/
def ofDays? (days : Int) : Option Date :=
  let shifted := days + 719468
  let cycle := shifted / 146097
  let dayOfCycle := shifted % 146097
  let yearOfCycle :=
    (dayOfCycle - dayOfCycle / 1460 + dayOfCycle / 36524 - dayOfCycle / 146096) / 365
  let dayOfYear := dayOfCycle - (365 * yearOfCycle + yearOfCycle / 4 - yearOfCycle / 100)
  let monthFromMarch := (5 * dayOfYear + 2) / 153
  let day := dayOfYear - (153 * monthFromMarch + 2) / 5 + 1
  let month := if monthFromMarch < 10 then monthFromMarch + 3 else monthFromMarch - 9
  let year := yearOfCycle + cycle * 400 + (if month ≤ 2 then 1 else 0)
  of? year month.toNat day.toNat

end Date

/-! ### Times of day -/

/-- Whether the fields name a time of day; any minute may have a leap second. -/
def IsTime (hour minute second nanosecond : Nat) : Prop :=
  hour < 24 ∧ minute < 60 ∧ second ≤ 60 ∧ nanosecond < 1000000000

instance (hour minute second nanosecond : Nat) :
    Decidable (IsTime hour minute second nanosecond) :=
  inferInstanceAs (Decidable (_ ∧ _))

/-- A time of day. -/
structure Time where
  hour : Nat
  minute : Nat
  second : Nat
  nanosecond : Nat
  isTime : IsTime hour minute second nanosecond
  deriving DecidableEq

namespace Time

/-- The time of an hour, minute, second and nanosecond, if there is one. -/
def of? (hour minute second nanosecond : Nat) : Option Time :=
  if h : IsTime hour minute second nanosecond then some ⟨hour, minute, second, nanosecond, h⟩
  else none

/-- The time a number of milliseconds after midnight, taken within one day. -/
def ofMilliseconds (milliseconds : Nat) : Time where
  hour := milliseconds / 3600000 % 24
  minute := milliseconds / 60000 % 60
  second := milliseconds / 1000 % 60
  nanosecond := milliseconds % 1000 * 1000000
  isTime := by refine ⟨?_, ?_, ?_, ?_⟩ <;> omega

/-- Whether a time is the first instant of a day. -/
def isMidnight (t : Time) : Bool :=
  t.hour == 0 && t.minute == 0 && t.second == 0 && t.nanosecond == 0

end Time

/-! ### Date-times and their text -/

/-- A date and a time of day. -/
structure DateTime where
  date : Date
  time : Time
  deriving DecidableEq

/-- A number in decimal, with zeros in front up to a width. -/
def padded (width n : Nat) : List Char :=
  (Nat.toDigits 10 n).leftpad width '0'

/-- A year: at least four digits, with a sign below zero and above 9999. -/
def yearText (year : Int) : List Char :=
  (if year < 0 then ['-'] else if 9999 < year then ['+'] else []) ++ padded 4 year.natAbs

/-- A date as year, month and day. -/
def Date.text (d : Date) : List Char :=
  yearText d.year ++ '-' :: padded 2 d.month ++ '-' :: padded 2 d.day

/-- A time as hour, minute and second. -/
def Time.text (t : Time) : List Char :=
  padded 2 t.hour ++ ':' :: padded 2 t.minute ++ ':' :: padded 2 t.second

/-- A date-time as date and time to the second, or the date alone at midnight. -/
def DateTime.text (t : DateTime) : String :=
  if t.time.isMidnight then String.ofList t.date.text
  else String.ofList (t.date.text ++ ' ' :: t.time.text)

end Screening
