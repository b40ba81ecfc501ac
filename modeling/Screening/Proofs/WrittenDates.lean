/-
Date-times in their written form.

The six numbers of a date-time stand in a text of one shape, each with all its digits. The text is
read number by number, since no digit is white space, a sign or a mark. It becomes a date-time if the
numbers name a day of the Gregorian calendar and a time of day, and is kept as it stands otherwise.
The date-time has the numbers of the text, and is written with the same digits again.

* `IsGregorian`: the days of the Gregorian calendar.
* `Iso.Written`: the texts of the shape; `Iso.Written.Names`: what numbers stand in one.
* `Iso.readNumber?_append`, `Iso.readYear?_append`, `Iso.readMark?_cons`: reading one part.
* `Iso.Written.readDateTime?_eq_some_iff`: the date-time that is read has the written numbers.
* `Iso.Written.Names.asText_eq`: how it is written again.
* `Value.toCell_isoDateTime`: the cell of a text of the shape.
-/
import Mathlib.Data.List.TakeWhile
import Screening.Proofs.Chronology
import Screening.Sheet.Value

namespace Screening

/-! ### The Gregorian calendar -/

/-- The days of the Gregorian calendar: thirty days have April, June, September and November, and
February has 29 in the years that four divides, unless hundred divides them and four hundred does
not. -/
def IsGregorian (year month day : ℕ) : Prop :=
  1 ≤ day ∧
    (month ∈ [1, 3, 5, 7, 8, 10, 12] ∧ day ≤ 31 ∨ month ∈ [4, 6, 9, 11] ∧ day ≤ 30 ∨
      month = 2 ∧ (day ≤ 28 ∨ day = 29 ∧ 4 ∣ year ∧ (100 ∣ year → 400 ∣ year)))

instance (year month day : ℕ) : Decidable (IsGregorian year month day) :=
  inferInstanceAs (Decidable (_ ∧ _))

/-- A year has a 29 February if the rules of division say so. -/
lemma isLeapYear_natCast_iff (year : ℕ) :
    isLeapYear year = true ↔ 4 ∣ year ∧ (100 ∣ year → 400 ∣ year) := by
  simp only [isLeapYear, Bool.and_eq_true, Bool.or_eq_true, beq_iff_eq, bne_iff_ne]
  omega

/-- A day is within the length of its month if it is one of the Gregorian calendar. -/
lemma le_monthLength_iff (year month day : ℕ) :
    1 ≤ day ∧ day ≤ monthLength year month ↔ IsGregorian year month day := by
  have hleap := isLeapYear_natCast_iff year
  rw [IsGregorian, ← hleap, monthLength.eq_def]
  -- one case for each month, and one for the numbers beyond
  split <;> simp <;> grind

/-- The day that is found has the year, month and day. -/
lemma Date.of?_eq_some_iff {year : ℤ} {month day : ℕ} {d : Date} :
    of? year month day = some d ↔ d.year = year ∧ d.month = month ∧ d.day = day := by
  rw [of?]
  split
  next h =>
    cases d
    rw [Option.some.injEq, mk.injEq]
    tauto
  next h =>
    refine iff_of_false (by simp) ?_
    rintro ⟨rfl, rfl, rfl⟩
    exact h d.isDate

/-- The time that is found has the hour, minute, second and nanosecond. -/
lemma Time.of?_eq_some_iff {hour minute second nanosecond : ℕ} {t : Time} :
    of? hour minute second nanosecond = some t ↔
      t.hour = hour ∧ t.minute = minute ∧ t.second = second ∧ t.nanosecond = nanosecond := by
  rw [of?]
  split
  next h =>
    cases t
    rw [Option.some.injEq, mk.injEq]
    tauto
  next h =>
    refine iff_of_false (by simp) ?_
    rintro ⟨rfl, rfl, rfl, rfl⟩
    exact h t.isTime

/-! ### Reading a part -/

namespace Iso

open Text

variable {width : ℕ} {cs : List Char}

/-- No white space stands before a numeral. -/
lemma trimStart_append (h : IsNumeral width cs) (hwidth : 0 < width) (rest : List Char) :
    trimStart (cs ++ rest) = cs ++ rest := by
  obtain ⟨c, r, rfl, hdigit⟩ := h.exists_cons hwidth
  exact List.dropWhile_cons_of_neg (by simp [isSpace_of_isDigit hdigit])

/-- **A numeral of the width is read off whatever stands behind it.** -/
lemma readNumber?_append (h : IsNumeral width cs) (hwidth : 0 < width) (rest : List Char) :
    readNumber? width (cs ++ rest) = some (digitsValue cs, rest) := by
  have hdigits : ((cs ++ rest).take width).takeWhile Char.isDigit = cs := by
    rw [List.take_left' h.length]
    exact List.takeWhile_eq_self_iff.2 h.digits
  have hne : cs.isEmpty = false := by
    obtain ⟨c, r, rfl, -⟩ := h.exists_cons hwidth
    rfl
  rw [readNumber?, trimStart_append h hwidth]
  simp only [hdigits, hne, List.drop_left]
  rfl

/-- A year of four digits is read as a number: its first digit is no sign. -/
lemma readYear?_append (h : IsNumeral 4 cs) (rest : List Char) :
    readYear? (cs ++ rest) = some ((digitsValue cs : ℤ), rest) := by
  have hread := readNumber?_append h (by simp) rest
  obtain ⟨c, r, rfl, hdigit⟩ := h.exists_cons (by simp)
  rw [readYear?, trimStart_append h (by simp)]
  split
  next heq => exact absurd (List.cons.inj heq).1 (ne_of_isDigit hdigit rfl)
  next heq => exact absurd (List.cons.inj heq).1 (ne_of_isDigit hdigit rfl)
  next => rw [hread]; rfl

/-- A mark is read off whatever stands behind it. -/
lemma readMark?_cons {mark : Char} (h : isSpace mark = false) (rest : List Char) :
    readMark? mark (mark :: rest) = some rest := by
  rw [readMark?, trimStart, List.dropWhile_cons_of_neg (by simp [h])]
  exact if_pos rfl

/-! ### Texts of the written form -/

/-- A date-time as it is written: a year of four digits and five numbers of two. -/
structure Written where
  year : List Char
  month : List Char
  day : List Char
  hour : List Char
  minute : List Char
  second : List Char
  isYear : IsNumeral 4 year
  isMonth : IsNumeral 2 month
  isDay : IsNumeral 2 day
  isHour : IsNumeral 2 hour
  isMinute : IsNumeral 2 minute
  isSecond : IsNumeral 2 second

namespace Written

/-- The front of the text, up to the mark `T`. -/
def date (w : Written) : List Char :=
  w.year ++ '-' :: w.month ++ '-' :: w.day

/-- The back of the text, behind the mark `T`. -/
def time (w : Written) : List Char :=
  w.hour ++ ':' :: w.minute ++ ':' :: w.second

/-- The text. -/
def text (w : Written) : String :=
  String.ofList (w.date ++ 'T' :: w.time)

/-- The text with a space for its mark. -/
def spaced (w : Written) : String :=
  w.text.map fun c => if c = 'T' then ' ' else c

/-- Whether the numbers name a day of the Gregorian calendar and a time of day, the second up to
that of a leap second. -/
def IsValid (w : Written) : Prop :=
  IsGregorian (digitsValue w.year) (digitsValue w.month) (digitsValue w.day) ∧
    digitsValue w.hour < 24 ∧ digitsValue w.minute < 60 ∧ digitsValue w.second ≤ 60

instance (w : Written) : Decidable w.IsValid :=
  inferInstanceAs (Decidable (_ ∧ _))

/-- A date-time has the numbers that are written, and no fraction of a second. -/
structure Names (w : Written) (t : DateTime) : Prop where
  year : t.date.year = digitsValue w.year
  month : t.date.month = digitsValue w.month
  day : t.date.day = digitsValue w.day
  hour : t.time.hour = digitsValue w.hour
  minute : t.time.minute = digitsValue w.minute
  second : t.time.second = digitsValue w.second
  nanosecond : t.time.nanosecond = 0

variable {w : Written} {t : DateTime}

/-- The text is read as its six numbers, which have to be a date and a time. -/
lemma readDateTime?_text (w : Written) : readDateTime? w.text =
    (Date.of? (digitsValue w.year) (digitsValue w.month) (digitsValue w.day)).bind fun date =>
      (Time.of? (digitsValue w.hour) (digitsValue w.minute) (digitsValue w.second) 0).bind
        fun time => some ⟨date, time⟩ := by
  have hend : readNumber? 2 w.second = some (digitsValue w.second, []) := by
    have hread := readNumber?_append w.isSecond Nat.two_pos []
    rwa [List.append_nil] at hread
  have hdash : isSpace '-' = false := by rfl
  have hmark : isSpace 'T' = false := by rfl
  have hcolon : isSpace ':' = false := by rfl
  rw [readDateTime?, text, String.toList_ofList, date, time]
  simp only [List.append_assoc, List.cons_append]
  rw [readChars?]
  dsimp only [Option.bind_eq_bind]
  rw [readYear?_append w.isYear, Option.bind_some, readMark?_cons hdash, Option.bind_some,
    readNumber?_append w.isMonth Nat.two_pos, Option.bind_some, readMark?_cons hdash,
    Option.bind_some, readNumber?_append w.isDay Nat.two_pos, Option.bind_some,
    readMark?_cons hmark, Option.bind_some, readNumber?_append w.isHour Nat.two_pos,
    Option.bind_some, readMark?_cons hcolon, Option.bind_some,
    readNumber?_append w.isMinute Nat.two_pos, Option.bind_some, readMark?_cons hcolon,
    Option.bind_some, hend, Option.bind_some]
  rfl

/-- **The date-time that is read has the written numbers.** -/
lemma readDateTime?_eq_some_iff : readDateTime? w.text = some t ↔ w.Names t := by
  rw [readDateTime?_text, Option.bind_eq_some_iff]
  constructor
  · rintro ⟨date, hdate, hread⟩
    obtain ⟨time, htime, heq⟩ := Option.bind_eq_some_iff.1 hread
    obtain ⟨hyear, hmonth, hday⟩ := Date.of?_eq_some_iff.1 hdate
    obtain ⟨hhour, hminute, hsecond, hnano⟩ := Time.of?_eq_some_iff.1 htime
    cases heq
    exact ⟨hyear, hmonth, hday, hhour, hminute, hsecond, hnano⟩
  · rintro ⟨hyear, hmonth, hday, hhour, hminute, hsecond, hnano⟩
    refine ⟨t.date, Date.of?_eq_some_iff.2 ⟨hyear, hmonth, hday⟩, ?_⟩
    rw [Time.of?_eq_some_iff.2 ⟨hhour, hminute, hsecond, hnano⟩]
    rfl

/-- There is a date-time with the written numbers exactly if these are valid. -/
lemma exists_names_iff : (∃ t, w.Names t) ↔ w.IsValid := by
  have hyear := w.isYear.digitsValue_lt
  have hmonth := le_monthLength_iff (digitsValue w.year) (digitsValue w.month) (digitsValue w.day)
  constructor
  · rintro ⟨t, ht⟩
    obtain ⟨-, -, hday⟩ := t.date.isDate
    obtain ⟨hhour, hminute, hsecond, -⟩ := t.time.isTime
    rw [ht.year, ht.month, ht.day] at hday
    rw [ht.hour] at hhour
    rw [ht.minute] at hminute
    rw [ht.second] at hsecond
    exact ⟨hmonth.1 hday, hhour, hminute, hsecond⟩
  · rintro ⟨hday, hhour, hminute, hsecond⟩
    have hdate : IsDate (digitsValue w.year) (digitsValue w.month) (digitsValue w.day) :=
      ⟨by omega, by omega, hmonth.2 hday⟩
    have htime : IsTime (digitsValue w.hour) (digitsValue w.minute) (digitsValue w.second) 0 :=
      ⟨hhour, hminute, hsecond, by simp⟩
    exact ⟨⟨⟨_, _, _, hdate⟩, ⟨_, _, _, _, htime⟩⟩, rfl, rfl, rfl, rfl, rfl, rfl, rfl⟩

/-- No other character of the text is the mark. -/
lemma spaced_eq (w : Written) : w.spaced = String.ofList (w.date ++ ' ' :: w.time) := by
  have hdigits {width : ℕ} {cs : List Char} (h : IsNumeral width cs) :
      (cs.map fun c => if c = 'T' then ' ' else c) = cs := by
    calc (cs.map fun c => if c = 'T' then ' ' else c)
        = cs.map id := List.map_congr_left fun c hc => if_neg (ne_of_isDigit (h.digits c hc) rfl)
      _ = cs := cs.map_id
  rw [← String.toList_inj, spaced, String.toList_map, text, String.toList_ofList,
    String.toList_ofList, date, time]
  simp only [List.map_append, List.map_cons, hdigits w.isYear, hdigits w.isMonth, hdigits w.isDay,
    hdigits w.isHour, hdigits w.isMinute, hdigits w.isSecond]
  rfl

namespace Names

/-- The date is written with the digits that were read. -/
lemma date_text (h : w.Names t) : t.date.text = w.date := by
  have hyear := w.isYear.digitsValue_lt
  rw [Date.text, h.year, yearText_eq (by omega) (by omega), Int.natAbs_natCast, h.month, h.day,
    w.isYear.padded_digitsValue (by simp), w.isMonth.padded_digitsValue Nat.two_pos,
    w.isDay.padded_digitsValue Nat.two_pos, Written.date]

/-- The time is written with the digits that were read. -/
lemma time_text (h : w.Names t) : t.time.text = w.time := by
  rw [Time.text, h.hour, h.minute, h.second, w.isHour.padded_digitsValue Nat.two_pos,
    w.isMinute.padded_digitsValue Nat.two_pos, w.isSecond.padded_digitsValue Nat.two_pos,
    Written.time]

/-- The time is a midnight exactly if all its digits are zero. -/
lemma isMidnight_iff (h : w.Names t) : t.time.isMidnight = true ↔ w.time = "00:00:00".toList := by
  rw [Time.isMidnight, h.nanosecond, h.hour, h.minute, h.second]
  simp only [beq_self_eq_true, Bool.and_true, Bool.and_eq_true, beq_iff_eq]
  constructor
  · rintro ⟨⟨hhour, hminute⟩, hsecond⟩
    rw [← h.time_text, Time.text, h.hour, h.minute, h.second, hhour, hminute, hsecond]
    rfl
  · intro heq
    have hzero : w.time = ['0', '0'] ++ ':' :: ['0', '0'] ++ ':' :: ['0', '0'] := heq
    obtain ⟨hfront, hsecond⟩ := List.append_inj hzero
      (by simp [w.isHour.length, w.isMinute.length])
    obtain ⟨hhour, hminute⟩ := List.append_inj hfront (by simp [w.isHour.length])
    rw [hhour, (List.cons.inj hminute).2, (List.cons.inj hsecond).2]
    exact ⟨⟨rfl, rfl⟩, rfl⟩

/-- **The date-time is shown with the digits that were read**, as the bare date at midnight. -/
lemma asText_eq (h : w.Names t) : (Cell.dateTime t).asText =
    if w.time = "00:00:00".toList then String.ofList w.date else w.spaced := by
  rw [Cell.asText, DateTime.text_eq, h.date_text, Time.suffix, spaced_eq]
  by_cases hzero : w.time = "00:00:00".toList
  · rw [if_pos hzero, if_pos (h.isMidnight_iff.2 hzero), List.append_nil]
  · rw [if_neg hzero, if_neg (mt h.isMidnight_iff.1 hzero), h.time_text]

end Names

end Written

end Iso

namespace Value

open Iso (Written)

/-- A text in the written form becomes the date-time that is read of it. -/
lemma toCell_isoDateTime_eq_dateTime_iff {s : String} {t : DateTime} :
    (isoDateTime s).toCell = .ok (.dateTime t) ↔ Iso.readDateTime? s = some t := by
  rw [toCell]
  cases Iso.readDateTime? s <;> simp

/-- **A written date-time is kept to its numbers or to the letter.** A text of the shape
`YYYY-MM-DDThh:mm:ss` becomes a date-time exactly if it is valid; the date-time has the numbers that
are written, and is shown as the bare date if it is a midnight, and otherwise as the text with a space
for the `T`. A text that is not valid stays a text, unchanged. -/
theorem toCell_isoDateTime (w : Written) :
    ((∃ t, (isoDateTime w.text).toCell = .ok (.dateTime t)) ↔ w.IsValid) ∧
      (∀ t, (isoDateTime w.text).toCell = .ok (.dateTime t) → w.Names t ∧
        (Cell.dateTime t).asText =
          if w.time = "00:00:00".toList then String.ofList w.date else w.spaced) ∧
      (¬w.IsValid → (isoDateTime w.text).toCell = .ok (.text w.text)) := by
  simp only [toCell_isoDateTime_eq_dateTime_iff, Written.readDateTime?_eq_some_iff]
  refine ⟨Written.exists_names_iff, fun t ht => ⟨ht, ht.asText_eq⟩, fun hnot => ?_⟩
  have hnone : Iso.readDateTime? w.text = none := by
    refine Option.eq_none_iff_forall_ne_some.2 fun t ht => hnot ?_
    exact Written.exists_names_iff.1 ⟨t, Written.readDateTime?_eq_some_iff.1 ht⟩
  rw [toCell, hnone]

/-- A leap second, and a 29 February of a common year. -/
theorem toCell_isoDateTime_leap :
    (∃ t, (isoDateTime "2016-12-31T23:59:60").toCell = .ok (.dateTime t) ∧
      (Cell.dateTime t).asText = "2016-12-31 23:59:60") ∧
    (isoDateTime "1900-02-29T23:59:60").toCell = .ok (.text "1900-02-29T23:59:60") := by
  let leap : Written :=
    ⟨"2016".toList, "12".toList, "31".toList, "23".toList, "59".toList, "60".toList,
      by decide, by decide, by decide, by decide, by decide, by decide⟩
  let common : Written :=
    { leap with
      year := "1900".toList, isYear := by decide, month := "02".toList, isMonth := by decide,
      day := "29".toList, isDay := by decide }
  obtain ⟨hvalid, hshown, -⟩ := toCell_isoDateTime leap
  obtain ⟨t, ht⟩ := hvalid.2 (by decide)
  have htext : (Cell.dateTime t).asText = leap.spaced :=
    (hshown t ht).2.trans (if_neg (by decide))
  have hcommon := (toCell_isoDateTime common).2.2 (by decide)
  exact ⟨⟨t, ht, htext.trans leap.spaced_eq⟩, hcommon⟩

end Value

end Screening
