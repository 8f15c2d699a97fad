/-!
# Calendar — dates

Dates of the proleptic Gregorian calendar: the leap rule of today, for every year
in both directions, with a year zero. The years are limited to those the library
reads and writes. A `Date` is a day that exists: the constructor asks for it, and
`Date.ofParts?` decides it.

* `Date.dayNumber` — the signed number of days from 1970-01-01;
* `Date.ofDayNumber?` — the date of a day number;
* `Date.next?`, `Date.previous?` — the neighbouring days.
-/

namespace MediaLibrary.Calendar

-- ---------------------------------------------------------------------------
-- Years and months
-- ---------------------------------------------------------------------------

/-- The first year of the calendar. -/
def minYear : Int := -262143

/-- The last year of the calendar. -/
def maxYear : Int := 262142

/-- Years divisible by four are leap years, those divisible by a hundred only if also by
four hundred. -/
def isLeapYear (year : Int) : Bool :=
  year % 4 == 0 && (year % 100 != 0 || year % 400 == 0)

/-- The number of days of a month; no month outside `1` to `12` has any. -/
def daysInMonth (year : Int) (month : Nat) : Nat :=
  match month with
  | 1 | 3 | 5 | 7 | 8 | 10 | 12 => 31
  | 4 | 6 | 9 | 11 => 30
  | 2 => if isLeapYear year then 29 else 28
  | _ => 0

/-- The number of days of a year before a month. -/
def daysBeforeMonth (year : Int) (month : Nat) : Nat :=
  ((List.range month).map (daysInMonth year)).foldr (· + ·) 0

/-- The number of days from 0001-01-01 to the first day of a year. -/
def daysBeforeYear (year : Int) : Int :=
  let past := year - 1
  365 * past + past / 4 - past / 100 + past / 400

-- ---------------------------------------------------------------------------
-- Dates
-- ---------------------------------------------------------------------------

/-- A year, a month and a day that exist together. -/
def IsDate (year : Int) (month day : Nat) : Prop :=
  minYear ≤ year ∧ year ≤ maxYear ∧ 1 ≤ day ∧ day ≤ daysInMonth year month

instance (year : Int) (month day : Nat) : Decidable (IsDate year month day) := by
  unfold IsDate
  infer_instance

/-- A day of the calendar. -/
structure Date where
  year : Int
  month : Nat
  day : Nat
  exist : IsDate year month day
deriving DecidableEq

namespace Date

/-- The date of a year, a month and a day, if there is such a day. -/
def ofParts? (year : Int) (month day : Nat) : Option Date :=
  if h : IsDate year month day then some ⟨year, month, day, h⟩ else none

/-- The number of days from 1970-01-01, negative before it. -/
def dayNumber (d : Date) : Int :=
  daysBeforeYear d.year + daysBeforeMonth d.year d.month + d.day - 1 - daysBeforeYear 1970

/-- The day after, unless the calendar ends. -/
def next? (d : Date) : Option Date :=
  if d.day < daysInMonth d.year d.month then ofParts? d.year d.month (d.day + 1)
  else if d.month < 12 then ofParts? d.year (d.month + 1) 1
  else ofParts? (d.year + 1) 1 1

/-- The day before, unless the calendar begins. -/
def previous? (d : Date) : Option Date :=
  if 1 < d.day then ofParts? d.year d.month (d.day - 1)
  else if 1 < d.month then ofParts? d.year (d.month - 1) (daysInMonth d.year (d.month - 1))
  else ofParts? (d.year - 1) 12 31

/-- The year of a day number: a first guess by the mean length of a year, put right by one. -/
def yearOfDayNumber (n : Int) : Int :=
  let days := n + daysBeforeYear 1970
  let guess := days * 400 / 146097 + 1
  if days < daysBeforeYear guess then guess - 1
  else if daysBeforeYear (guess + 1) ≤ days then guess + 1
  else guess

/-- The month that holds a day of the year, counted from zero, and the days before the month. -/
def monthOfYearDay (year : Int) (yearDay : Nat) : Nat × Nat :=
  ((List.range' 1 12).filterMap fun month =>
      let before := daysBeforeMonth year month
      if before ≤ yearDay then some (month, before) else none).getLastD (1, 0)

/-- The date of a day number, within the calendar. -/
def ofDayNumber? (n : Int) : Option Date :=
  let year := yearOfDayNumber n
  let yearDay := (n + daysBeforeYear 1970 - daysBeforeYear year).toNat
  let (month, before) := monthOfYearDay year yearDay
  ofParts? year month (yearDay - before + 1)

end Date

end MediaLibrary.Calendar
