import TextIndex.Time.Date

/-!
# Instants

A point in time is a date and a time of day at the zero meridian. A leap second is written as the
last second of a minute with a thousand million nanoseconds or more.

* `Instant.ofUnix?`, `Instant.unixSeconds`: instants counted in seconds from the start of 1970.
* `Instant.ofLocal?`: the instant at which clocks a number of minutes ahead show a time.
-/

namespace TextIndex.Time

def nanosPerSecond : Nat := 1000000000

def secondsPerDay : Nat := 86400

/-- A point in time. -/
structure Instant where
  date : Date
  /-- The seconds since midnight. -/
  second : Nat
  /-- The nanoseconds since the start of the second. -/
  nanos : Nat
  second_lt : second < 86400
  nanos_lt : nanos < 2000000000
  leap_at_end : 1000000000 ≤ nanos → second % 60 = 59
deriving DecidableEq

namespace Instant

/-- The instant of a date, a second of the day and nanoseconds, if they are in range. -/
def of? (date : Date) (second nanos : Nat) : Option Instant :=
  if secondLt : second < 86400 then
    if nanosLt : nanos < 2000000000 then
      if leapAtEnd : 1000000000 ≤ nanos → second % 60 = 59 then
        some ⟨date, second, nanos, secondLt, nanosLt, leapAtEnd⟩
      else none
    else none
  else none

/-- The instant a number of seconds after the start of 1970, and nanoseconds later. -/
def ofUnix? (seconds : Int) (nanos : Nat) : Option Instant :=
  (Date.ofDayNumber? (seconds / secondsPerDay)).bind fun date =>
    of? date (seconds % secondsPerDay).toNat nanos

/-- The seconds from the start of 1970 to an instant. -/
def unixSeconds (instant : Instant) : Int :=
  instant.date.dayNumber * secondsPerDay + instant.second

/-- The instant at which clocks `ahead` seconds ahead of the zero meridian show a date, a second of
the day and nanoseconds. -/
def ofLocal? (ahead : Int) (date : Date) (second nanos : Nat) : Option Instant :=
  let universal := (second : Int) - ahead
  let day? :=
    if universal < 0 then date.previous?
    else if universal < secondsPerDay then some date
    else date.next?
  day?.bind fun day => of? day (universal % secondsPerDay).toNat nanos

end Instant

end TextIndex.Time
