/-
Serial day numbers.

A spreadsheet stores a date-time as a number of days, counted in one of two date systems. The
first system counts a 29 February 1900 that never was, so numbers below 60 lie one day later than
the count says. The time of day is rounded to the millisecond.

* `Serial.toDateTime?`: the date-time of a serial number, if it is in the calendar.
* `Serial.Overflow`: a number so far below zero that its span in milliseconds does not fit.
-/
import Screening.Calendar.DateTime
import Screening.Number.Binary64

namespace Screening

/-- A serial number of days, in the date system from 1900 or in the one from 1904. -/
structure Serial where
  days : Binary64
  from1904 : Bool
  deriving DecidableEq

namespace Serial

/-- The span of a serial number in milliseconds leaves its range at the low end. -/
inductive Overflow where
  | belowRange
  deriving DecidableEq

/-- The wording of a span out of range. -/
def Overflow.message : Overflow → String
  | belowRange => "TimeDelta::milliseconds out of bounds"

/-- The day count as one continuous number of days after 1899-12-30: the later system starts 1462
days later, and a number below 60 lies a day later than it counts. -/
def continuousDays (s : Serial) : Binary64 :=
  let days := if s.from1904 then s.days.add (Binary64.ofNat 1462) else s.days
  if days.atLeast 60 then days else days.add (Binary64.ofNat 1)

/-- The smallest span, in milliseconds. -/
def minSpan : Int := -0x8000000000000000

/-- The largest span, in milliseconds. -/
def maxSpan : Int := 0x7FFFFFFFFFFFFFFF

/-- The span after 1899-12-30 in milliseconds: rounded, halves away from zero, and kept within
the range of spans. A NaN spans nothing. -/
def span (s : Serial) : Int :=
  let milliseconds := s.continuousDays.mul (Binary64.ofNat 86400000)
  if milliseconds.isNaN then 0
  else if milliseconds.isInfinite then if milliseconds.isNegative then minSpan else maxSpan
  else max minSpan (min maxSpan milliseconds.roundAway)

/-- The date-time a span after 1899-12-30, if it is in the calendar. -/
def dateTimeAfter? (milliseconds : Int) : Option DateTime :=
  (Date.ofDays? (milliseconds / 86400000 - 25569)).map fun date =>
    ⟨date, Time.ofMilliseconds (milliseconds % 86400000).toNat⟩

/-- The date-time of a serial number: none outside the calendar, a fault at the smallest span. -/
def toDateTime? (s : Serial) : Except Overflow (Option DateTime) :=
  if s.span = minSpan then .error .belowRange else .ok (dateTimeAfter? s.span)

end Serial

end Screening
