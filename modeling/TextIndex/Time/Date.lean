/-!
# Calendar dates

Dates of the Gregorian calendar, carried back to before its introduction, in a fixed range of years
around the common era.

* `Date.of?`: the date with a year, a month and a day, if there is one.
* `Date.dayNumber`, `Date.ofDayNumber?`: dates counted in days from the first of January 1970.
* `Date.previous?`, `Date.next?`: the neighbouring dates.
-/

namespace TextIndex.Time

/-- The first year that dates reach back to. -/
def firstYear : Int := -262143

/-- The last year that dates reach. -/
def lastYear : Int := 262142

/-- Whether a year has a twenty-ninth of February. -/
def isLeapYear (year : Int) : Bool :=
  year % 4 = 0 && (year % 100 != 0 || year % 400 = 0)

/-- The number of days of a month, counted from one for January. -/
def daysInMonth (year : Int) (month : Nat) : Nat :=
  if month = 2 then (if isLeapYear year then 29 else 28)
  else if month = 4 ∨ month = 6 ∨ month = 9 ∨ month = 11 then 30
  else 31

/-- A date. -/
structure Date where
  year : Int
  month : Nat
  day : Nat
  year_mem : firstYear ≤ year ∧ year ≤ lastYear
  month_mem : 1 ≤ month ∧ month ≤ 12
  day_mem : 1 ≤ day ∧ day ≤ daysInMonth year month
deriving DecidableEq

namespace Date

/-- The date with a year, a month and a day, if the calendar has one. -/
def of? (year : Int) (month day : Nat) : Option Date :=
  if yearMem : firstYear ≤ year ∧ year ≤ lastYear then
    if monthMem : 1 ≤ month ∧ month ≤ 12 then
      if dayMem : 1 ≤ day ∧ day ≤ daysInMonth year month then
        some ⟨year, month, day, yearMem, monthMem, dayMem⟩
      else none
    else none
  else none

/-- A date is found again from its parts. -/
theorem of?_parts (date : Date) : of? date.year date.month date.day = some date := by
  simp only [of?, date.year_mem, date.month_mem, date.day_mem, and_self, dite_true]

/-- The days from the first of January 1970 to a date. Years are taken to begin in March, so that
a leap day ends its year; four hundred of them always have the same length. -/
def dayNumber (date : Date) : Int :=
  let year := if date.month ≤ 2 then date.year - 1 else date.year
  let era := year / 400
  let yearOfEra := year % 400
  let month : Int := if date.month ≤ 2 then date.month + 9 else date.month - 3
  let dayOfYear := (153 * month + 2) / 5 + date.day - 1
  let dayOfEra := yearOfEra * 365 + yearOfEra / 4 - yearOfEra / 100 + dayOfYear
  era * 146097 + dayOfEra - 719468

/-- The date a number of days after the first of January 1970. -/
def ofDayNumber? (number : Int) : Option Date :=
  let shifted := number + 719468
  let era := shifted / 146097
  let dayOfEra := shifted % 146097
  let yearOfEra :=
    (dayOfEra - dayOfEra / 1460 + dayOfEra / 36524 - dayOfEra / 146096) / 365
  let dayOfYear := dayOfEra - (365 * yearOfEra + yearOfEra / 4 - yearOfEra / 100)
  let month := (5 * dayOfYear + 2) / 153
  let day := dayOfYear - (153 * month + 2) / 5 + 1
  let year := yearOfEra + era * 400
  if month < 10 then of? year (month + 3).toNat day.toNat
  else of? (year + 1) (month - 9).toNat day.toNat

def previous? (date : Date) : Option Date :=
  if 1 < date.day then of? date.year date.month (date.day - 1)
  else if 1 < date.month then
    of? date.year (date.month - 1) (daysInMonth date.year (date.month - 1))
  else of? (date.year - 1) 12 31

def next? (date : Date) : Option Date :=
  if date.day < daysInMonth date.year date.month then of? date.year date.month (date.day + 1)
  else if date.month < 12 then of? date.year (date.month + 1) 1
  else of? (date.year + 1) 1 1

end Date

end TextIndex.Time
