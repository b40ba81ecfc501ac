/-
The order of dates and times, and that of their texts.

The time that passes up to a date-time is counted from the lengths of the years and months before it.
Years, months, days, hours, minutes and seconds are written in this order, each padded to its width,
and the bare date of a midnight stands before every other time of its day. So within the years of
four digits, date-times stand in the order of their texts.

* `yearStart_succ`, `monthStart_succ`, `Date.days`: the days up to a date.
* `Date.days_lt_iff`: they grow with the year, then with the month, then with the day.
* `DateTime.seconds`: the seconds up to a date-time.
* `Date.text_lt_iff`, `Time.suffix_lt_iff`: the order of the two parts of a text.
* `Cell.compare_asText_dateTime`: the texts of two cells compare as their date-times do.
-/
import Mathlib.Data.String.Basic
import Screening.Proofs.Digits
import Screening.Sheet.Cell

namespace Screening

/-! ### Counting days -/

/-- The number of days of a year. -/
def yearLength (year : ℤ) : ℕ :=
  if isLeapYear year then 366 else 365

/-- The number of days from the start of year zero to the start of a year: the years in between, and
a leap day for every fourth one of them, but not every hundredth, except every four hundredth. -/
def yearStart (year : ℤ) : ℤ :=
  365 * year + (year + 3) / 4 - (year + 99) / 100 + (year + 399) / 400

/-- A year starts where the one before it ends. -/
lemma yearStart_succ (year : ℤ) : yearStart (year + 1) = yearStart year + yearLength year := by
  have hleap : isLeapYear year = true ↔ year % 4 = 0 ∧ (year % 100 ≠ 0 ∨ year % 400 = 0) := by
    simp [isLeapYear]
  rw [yearStart, yearStart, yearLength]
  split
  next h =>
    have hyear := hleap.1 h
    omega
  next h =>
    have hyear := mt hleap.2 h
    omega

/-- Later years start later. -/
lemma yearStart_le {year year' : ℤ} (h : year ≤ year') : yearStart year ≤ yearStart year' := by
  refine monotone_int_of_le_succ (fun year => ?_) h
  rw [yearStart_succ]
  omega

/-- The number of days of a year before a month. -/
def monthStart (year : ℤ) (month : ℕ) : ℕ :=
  ((List.range month).map (monthLength year)).sum

/-- A month starts where the one before it ends. -/
lemma monthStart_succ (year : ℤ) (month : ℕ) :
    monthStart year (month + 1) = monthStart year month + monthLength year month := by
  simp [monthStart, List.range_succ]

lemma monthStart_mono (year : ℤ) : Monotone (monthStart year) := by
  refine monotone_nat_of_le_succ fun month => ?_
  rw [monthStart_succ]
  exact Nat.le_add_right _ _

/-- The twelve months make up the year. -/
lemma monthStart_thirteen (year : ℤ) : monthStart year 13 = yearLength year := by
  simp [monthStart, yearLength, List.range_succ, monthLength]
  split <;> rfl

/-! ### The order of dates -/

namespace Date

variable {d e : Date}

/-- There are twelve months, none with more than 31 days. -/
lemma bounds (d : Date) : 1 ≤ d.month ∧ d.month ≤ 12 ∧ d.day ≤ 31 := by
  obtain ⟨-, -, hpos, hday⟩ := d.isDate
  have hleap : (if isLeapYear d.year then 29 else 28) ≤ 29 := by split <;> simp
  unfold monthLength at hday
  split at hday <;> omega

/-- The number of days from the start of year zero to the start of a day. -/
def days (d : Date) : ℤ :=
  yearStart d.year + monthStart d.year d.month + (d.day - 1)

/-- A day lies within its month. -/
lemma days_lt_monthEnd (d : Date) :
    d.days < yearStart d.year + monthStart d.year (d.month + 1) := by
  obtain ⟨-, -, -, hday⟩ := d.isDate
  rw [days, monthStart_succ]
  omega

/-- A day lies within its year. -/
lemma days_bounds (d : Date) : yearStart d.year ≤ d.days ∧ d.days < yearStart (d.year + 1) := by
  obtain ⟨-, -, hpos, -⟩ := d.isDate
  obtain ⟨-, hmonth, -⟩ := d.bounds
  have hend : monthStart d.year (d.month + 1) ≤ monthStart d.year 13 :=
    monthStart_mono d.year (by omega)
  have hlast := d.days_lt_monthEnd
  rw [yearStart_succ, ← monthStart_thirteen]
  constructor
  · rw [days]
    omega
  · omega

/-- Fewer days pass to a day of an earlier year, month or day. -/
lemma days_lt (h : d.year < e.year ∨
    d.year = e.year ∧ (d.month < e.month ∨ d.month = e.month ∧ d.day < e.day)) :
    d.days < e.days := by
  rcases h with hyear | ⟨hyear, hmonth | ⟨hmonth, hday⟩⟩
  · calc d.days < yearStart (d.year + 1) := d.days_bounds.2
      _ ≤ yearStart e.year := yearStart_le hyear
      _ ≤ e.days := e.days_bounds.1
  · obtain ⟨-, -, hpos, -⟩ := e.isDate
    have hstart : monthStart d.year (d.month + 1) ≤ monthStart d.year e.month :=
      monthStart_mono d.year hmonth
    have hlast := d.days_lt_monthEnd
    rw [hyear] at hstart hlast
    rw [days.eq_def e]
    omega
  · rw [days, days, hyear, hmonth]
    omega

/-- **Days stand in the order of their years, then of their months, then of their days.** -/
lemma days_lt_iff : d.days < e.days ↔ d.year < e.year ∨
    d.year = e.year ∧ (d.month < e.month ∨ d.month = e.month ∧ d.day < e.day) := by
  refine ⟨fun h => ?_, days_lt⟩
  by_contra hnot
  by_cases hback : e.year < d.year ∨
      e.year = d.year ∧ (e.month < d.month ∨ e.month = d.month ∧ e.day < d.day)
  · exact lt_asymm h (days_lt hback)
  · have hyear : d.year = e.year := by omega
    have hmonth : d.month = e.month := by omega
    have hday : d.day = e.day := by omega
    rw [days, days, hyear, hmonth, hday] at h
    exact lt_irrefl _ h

/-- A date is told by the days before it. -/
lemma days_injective : Function.Injective days := by
  intro d e h
  have hlt := mt days_lt_iff.2 h.not_lt
  have hgt := mt days_lt_iff.2 h.symm.not_lt
  obtain ⟨year, month, day, hdate⟩ := d
  obtain ⟨year', month', day', hdate'⟩ := e
  simp only [mk.injEq]
  dsimp only at hlt hgt
  omega

end Date

/-! ### Counting seconds -/

/-- The number of seconds of a day before a time. -/
def Time.clock (t : Time) : ℕ :=
  3600 * t.hour + 60 * t.minute + t.second

/-- A time without a leap second is told by its seconds and the fraction. -/
lemma Time.eq_of_clock_eq {t u : Time} (ht : t.second < 60) (hu : u.second < 60)
    (hnano : t.nanosecond = u.nanosecond) (h : t.clock = u.clock) : t = u := by
  have hminute := t.isTime.2.1
  have hminute' := u.isTime.2.1
  cases t
  cases u
  simp only [clock] at h ht hu hnano hminute hminute'
  rw [mk.injEq]
  omega

/-- The number of seconds from the start of year zero to a date-time. -/
def DateTime.seconds (t : DateTime) : ℤ :=
  86400 * t.date.days + t.time.clock

/-- A date-time with a year of four digits, without a fraction of a second or a leap second. -/
structure DateTime.IsPlain (t : DateTime) : Prop where
  year_nonneg : 0 ≤ t.date.year
  year_le : t.date.year ≤ 9999
  second_lt : t.time.second < 60
  nanosecond_eq : t.time.nanosecond = 0

/-! ### The order of texts -/

/-- Three padded numbers with a mark between them are compared by the first, then by the second,
then by the third. -/
lemma fields_lt_iff {width a a' b b' c c' : ℕ} (hwidth : 0 < width) (ha : a < 10 ^ width)
    (ha' : a' < 10 ^ width) (hb : b < 10 ^ 2) (hb' : b' < 10 ^ 2) (hc : c < 10 ^ 2)
    (hc' : c' < 10 ^ 2) (mark : Char) :
    padded width a ++ mark :: padded 2 b ++ mark :: padded 2 c <
        padded width a' ++ mark :: padded 2 b' ++ mark :: padded 2 c' ↔
      a < a' ∨ a = a' ∧ (b < b' ∨ b = b' ∧ c < c') := by
  have hfirst : (padded width a).length = (padded width a').length := by
    rw [(isNumeral_padded hwidth ha).length, (isNumeral_padded hwidth ha').length]
  have hsecond : (padded 2 b).length = (padded 2 b').length := by
    rw [(isNumeral_padded Nat.two_pos hb).length, (isNumeral_padded Nat.two_pos hb').length]
  rw [List.append_assoc, List.append_assoc, append_lt_append_iff hfirst, List.cons_append,
    List.cons_append, List.cons_lt_cons_iff, append_lt_append_iff hsecond, List.cons_lt_cons_iff,
    padded_lt_padded_iff hwidth ha ha', padded_lt_padded_iff Nat.two_pos hb hb',
    padded_lt_padded_iff Nat.two_pos hc hc', (padded_injective width).eq_iff,
    (padded_injective 2).eq_iff]
  simp

/-- A year of four digits is written with these. -/
lemma yearText_eq {year : ℤ} (hnonneg : 0 ≤ year) (hle : year ≤ 9999) :
    yearText year = padded 4 year.natAbs := by
  rw [yearText, if_neg (not_lt.2 hnonneg), if_neg (not_lt.2 hle), List.nil_append]

/-- What a time adds to the text of its date: nothing at midnight. -/
def Time.suffix (t : Time) : List Char :=
  if t.isMidnight then [] else ' ' :: t.text

/-- A date-time is written as its date and what its time adds. -/
lemma DateTime.text_eq (t : DateTime) : t.text = String.ofList (t.date.text ++ t.time.suffix) := by
  rw [text, Time.suffix]
  split
  · rw [List.append_nil]
  · rfl

namespace DateTime.IsPlain

variable {t u : DateTime}

/-- The numbers of a plain date-time fit into their widths. -/
lemma fits (h : t.IsPlain) : t.date.year.natAbs < 10 ^ 4 ∧ t.date.month < 10 ^ 2 ∧
    t.date.day < 10 ^ 2 ∧ t.time.hour < 10 ^ 2 ∧ t.time.minute < 10 ^ 2 ∧
    t.time.second < 10 ^ 2 := by
  obtain ⟨hnonneg, hyear, hsecond, -⟩ := h
  obtain ⟨-, hmonth, hday⟩ := t.date.bounds
  obtain ⟨hhour, hminute, -⟩ := t.time.isTime
  omega

/-- Dates stand in the order of their texts. -/
lemma date_text_lt_iff (ht : t.IsPlain) (hu : u.IsPlain) :
    t.date.text < u.date.text ↔ t.date.days < u.date.days := by
  obtain ⟨hyear, hmonth, hday, -⟩ := ht.fits
  obtain ⟨hyear', hmonth', hday', -⟩ := hu.fits
  rw [Date.text, Date.text, yearText_eq ht.year_nonneg ht.year_le,
    yearText_eq hu.year_nonneg hu.year_le,
    fields_lt_iff (by simp) hyear hyear' hmonth hmonth' hday hday', Date.days_lt_iff]
  have hnonneg := ht.year_nonneg
  have hnonneg' := hu.year_nonneg
  omega

/-- Times stand in the order of their texts. -/
lemma time_text_lt_iff (ht : t.IsPlain) (hu : u.IsPlain) :
    t.time.text < u.time.text ↔ t.time.clock < u.time.clock := by
  obtain ⟨-, -, -, hhour, hminute, hsecond⟩ := ht.fits
  obtain ⟨-, -, -, hhour', hminute', hsecond'⟩ := hu.fits
  rw [Time.text, Time.text,
    fields_lt_iff (by simp) hhour hhour' hminute hminute' hsecond hsecond', Time.clock, Time.clock]
  have hlast := ht.second_lt
  have hlast' := hu.second_lt
  obtain ⟨-, hminute, -⟩ := t.time.isTime
  obtain ⟨-, hminute', -⟩ := u.time.isTime
  omega

/-- A day has 86400 seconds. -/
lemma clock_lt (h : t.IsPlain) : t.time.clock < 86400 := by
  obtain ⟨hhour, hminute, -⟩ := t.time.isTime
  have hsecond := h.second_lt
  rw [Time.clock]
  omega

/-- Midnight is the start of the day. -/
lemma isMidnight_iff (h : t.IsPlain) : t.time.isMidnight = true ↔ t.time.clock = 0 := by
  rw [Time.isMidnight, h.nanosecond_eq, Time.clock]
  simp only [beq_self_eq_true, Bool.and_true, Bool.and_eq_true, beq_iff_eq]
  omega

/-- Times stand in the order of what they add: a bare date comes before all other times. -/
lemma suffix_lt_iff (ht : t.IsPlain) (hu : u.IsPlain) :
    t.time.suffix < u.time.suffix ↔ t.time.clock < u.time.clock := by
  have hclock := ht.isMidnight_iff
  have hclock' := hu.isMidnight_iff
  rw [Time.suffix, Time.suffix]
  by_cases hmidnight : t.time.isMidnight = true <;> by_cases hmidnight' : u.time.isMidnight = true
  · rw [if_pos hmidnight, if_pos hmidnight', hclock.1 hmidnight, hclock'.1 hmidnight']
    simp
  · have hpos := mt hclock'.2 hmidnight'
    rw [if_pos hmidnight, if_neg hmidnight', hclock.1 hmidnight]
    exact iff_of_true (List.nil_lt_cons _ _) (Nat.pos_of_ne_zero hpos)
  · rw [if_neg hmidnight, if_pos hmidnight', hclock'.1 hmidnight']
    simp
  · rw [if_neg hmidnight, if_neg hmidnight', List.cons_lt_cons_iff, ht.time_text_lt_iff hu]
    simp

/-- The texts of dates have ten characters. -/
lemma length_date_text (h : t.IsPlain) : t.date.text.length = 10 := by
  obtain ⟨hyear, hmonth, hday, -⟩ := h.fits
  rw [Date.text, yearText_eq h.year_nonneg h.year_le]
  simp [(isNumeral_padded _ hyear).length, (isNumeral_padded _ hmonth).length,
    (isNumeral_padded _ hday).length]

/-- **Date-times stand in the order of their texts.** -/
lemma text_lt_iff (ht : t.IsPlain) (hu : u.IsPlain) : t.text < u.text ↔ t.seconds < u.seconds := by
  have hdate := ht.date_text_lt_iff hu
  have hsame := eq_iff_of_lt_iff hdate (hu.date_text_lt_iff ht)
  have hlength := ht.length_date_text.trans hu.length_date_text.symm
  rw [text_eq, text_eq, String.lt_iff_toList_lt, String.toList_ofList, String.toList_ofList,
    append_lt_append_iff hlength, hdate, hsame, ht.suffix_lt_iff hu, seconds, seconds]
  have hclock : t.time.clock < 86400 := ht.clock_lt
  have hclock' : u.time.clock < 86400 := hu.clock_lt
  omega

/-- A plain date-time is told by its seconds. -/
lemma eq_of_seconds_eq (ht : t.IsPlain) (hu : u.IsPlain) (h : t.seconds = u.seconds) : t = u := by
  have hclock := ht.clock_lt
  have hclock' := hu.clock_lt
  rw [seconds, seconds] at h
  have hdate : t.date = u.date := Date.days_injective (by omega)
  have htime : t.time = u.time := Time.eq_of_clock_eq ht.second_lt hu.second_lt
    (ht.nanosecond_eq.trans hu.nanosecond_eq.symm) (by omega)
  cases t
  cases u
  rw [mk.injEq]
  exact ⟨hdate, htime⟩

end DateTime.IsPlain

namespace Cell

/-- **The texts of date-times compare as these do.** Of two cells with date-times of whole seconds in
the years zero to 9999 the earlier one has the lesser text, and different ones have different texts,
also if one of them is a midnight, which is written as a bare date. -/
theorem compare_asText_dateTime {t u : DateTime} (ht : t.IsPlain) (hu : u.IsPlain) :
    compare (dateTime t).asText (dateTime u).asText = compare t.seconds u.seconds ∧
      ((dateTime t).asText = (dateTime u).asText ↔ t = u) := by
  have hlt := ht.text_lt_iff hu
  have hgt := hu.text_lt_iff ht
  refine ⟨compare_eq_of_lt_iff hlt hgt, fun h => ?_, fun h => by rw [h]⟩
  exact ht.eq_of_seconds_eq hu ((eq_iff_of_lt_iff hlt hgt).1 h)

/-- The last second of a leap day, and the midnight after it. -/
theorem compare_asText_dateTime_midnight :
    ∃ t u : DateTime, t.IsPlain ∧ u.IsPlain ∧ (dateTime t).asText = "2024-02-29 23:59:59" ∧
      (dateTime u).asText = "2024-03-01" ∧ u.seconds = t.seconds + 1 ∧
      compare (dateTime t).asText (dateTime u).asText = .lt ∧ t ≠ u := by
  have ht : DateTime.IsPlain ⟨⟨2024, 2, 29, by decide⟩, ⟨23, 59, 59, 0, by decide⟩⟩ :=
    ⟨by simp, by simp, by simp, rfl⟩
  have hu : DateTime.IsPlain ⟨⟨2024, 3, 1, by decide⟩, ⟨0, 0, 0, 0, by decide⟩⟩ :=
    ⟨by simp, by simp, by simp, rfl⟩
  obtain ⟨hcompare, hsame⟩ := compare_asText_dateTime ht hu
  refine ⟨_, _, ht, hu, by decide, by decide, by decide, hcompare.trans (by decide), ?_⟩
  simp

end Cell

end Screening
