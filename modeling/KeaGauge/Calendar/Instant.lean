/-!
# Instants of the civil calendar

A date of the proleptic Gregorian calendar and a time of day in UTC. The
types hold exactly the dates that exist, and each second of a day with a
fraction of up to two seconds. One of a second or more is that of a leap second
behind the last second of a minute, but it may be held behind any other second
too (`Clock.IsRegular`). `Instant.epoch` counts the seconds since the start of
1970.
-/

namespace KeaGauge.Calendar

/-- Whether a year has 366 days. -/
def isLeap (year : Int) : Bool :=
  year % 4 = 0 && (year % 100 ≠ 0 || year % 400 = 0)

/-- How many days a month has, months counted from one. -/
def daysInMonth (year : Int) : Nat → Nat
  | 2 => if isLeap year then 29 else 28
  | 4 | 6 | 9 | 11 => 30
  | _ => 31

/-- The first year of the calendar. -/
def firstYear : Int := -262143

/-- The last year of the calendar. -/
def lastYear : Int := 262142

/-- A date that exists. -/
structure Date where
  year : Int
  month : Nat
  day : Nat
  year_mem : firstYear ≤ year ∧ year ≤ lastYear
  month_mem : 1 ≤ month ∧ month ≤ 12
  day_mem : 1 ≤ day ∧ day ≤ daysInMonth year month
deriving DecidableEq

namespace Date

/-- The date of a year, a month and a day, if it exists. -/
def of? (year : Int) (month day : Nat) : Option Date :=
  if h : (firstYear ≤ year ∧ year ≤ lastYear) ∧ (1 ≤ month ∧ month ≤ 12)
      ∧ 1 ≤ day ∧ day ≤ daysInMonth year month then
    some ⟨year, month, day, h.1, h.2.1, h.2.2⟩
  else none

/-- The days from the first of January of year one to that of a year. -/
def daysBefore (year : Int) : Int :=
  let past := year - 1
  365 * past + past / 4 - past / 100 + past / 400

/-- The days of a year before a month. -/
def daysBeforeMonth (year : Int) : (month : Nat) → Nat
  | 0 | 1 => 0
  | month + 2 => daysBeforeMonth year (month + 1) + daysInMonth year (month + 1)

/-- The days from the first of January 1970 to the date. -/
def epochDay (d : Date) : Int :=
  daysBefore d.year + daysBeforeMonth d.year d.month + d.day - 719163

/-- The date a number of days after the first of January 1970. -/
def ofEpochDay? (n : Int) : Option Date :=
  let days := n + 719162
  let inCycle := days % 146097
  let years := ((List.range 400).filter fun (y : Nat) => daysBefore ((y : Int) + 1) ≤ inCycle).length
  let year := 400 * (days / 146097) + years
  let inYear := days - daysBefore year
  let month := ((List.range 12).filter fun (m : Nat) => (daysBeforeMonth year (m + 1) : Int) ≤ inYear).length
  of? year month (inYear - daysBeforeMonth year month + 1).toNat

end Date

/-- A time of day. The fraction is less than two seconds. -/
structure Clock where
  hour : Nat
  minute : Nat
  second : Nat
  nanos : Nat
  hour_lt : hour < 24
  minute_lt : minute < 60
  second_lt : second < 60
  nanos_lt : nanos < 2000000000
deriving DecidableEq

namespace Clock

/-- **A time that clocks show**: a fraction of a second or more is that of a
leap second, which follows on a second 59. -/
def IsRegular (t : Clock) : Prop := t.nanos < 1000000000 ∨ t.second = 59

instance (t : Clock) : Decidable t.IsRegular := inferInstanceAs (Decidable (_ ∨ _))

/-- The time of an hour, a minute, a second and a fraction, if clocks show
it. -/
def of? (hour minute second nanos : Nat) : Option Clock :=
  if h : hour < 24 ∧ minute < 60 ∧ second < 60 ∧ nanos < 2000000000
      ∧ (nanos < 1000000000 ∨ second = 59) then
    some ⟨hour, minute, second, nanos, h.1, h.2.1, h.2.2.1, h.2.2.2.1⟩
  else none

/-- The time as clocks write it, where the leap second is second 60. -/
def written? (hour minute second nanos : Nat) : Option Clock :=
  if second = 60 then of? hour minute 59 (nanos + 1000000000)
  else of? hour minute second nanos

/-- The second that is written. A fraction of a second or more counts as one. -/
def writtenSecond (t : Clock) : Nat := t.second + t.nanos / 1000000000

/-- The nanoseconds within the written second. -/
def fraction (t : Clock) : Nat := t.nanos % 1000000000

end Clock

/-- A point in time. -/
structure Instant where
  date : Date
  clock : Clock
deriving DecidableEq

namespace Instant

/-- The seconds since the start of 1970, a leap second counted with the one
before it. -/
def epoch (t : Instant) : Int :=
  t.date.epochDay * 86400 + t.clock.hour * 3600 + t.clock.minute * 60 + t.clock.second

/-- The nanoseconds within the second. -/
def nanos (t : Instant) : Nat := t.clock.nanos

/-- The instant of a number of seconds since the start of 1970 and of
nanoseconds within the second, if clocks show it. -/
def ofEpoch? (seconds : Int) (nanos : Nat) : Option Instant := do
  let date ← Date.ofEpochDay? (seconds / 86400)
  let inDay := (seconds % 86400).toNat
  let clock ← Clock.of? (inDay / 3600) (inDay / 60 % 60) (inDay % 60) nanos
  return ⟨date, clock⟩

end Instant

end KeaGauge.Calendar
