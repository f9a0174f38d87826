/-!
An instant as a clock shows it: a date and time of day of the Gregorian calendar, carried on without
end in both directions, and the offset of that clock from universal time.
-/
namespace IssueFeed

/-- A wall-clock reading. Nanoseconds from 10⁹ on stand for a leap second after second 59. -/
structure Instant where
  year : Int
  month : Nat
  day : Nat
  hour : Nat
  minute : Nat
  second : Nat
  nanosecond : Nat
  /-- Seconds east of universal time. -/
  offset : Int
  deriving DecidableEq, Repr

namespace Instant

def isLeapYear (year : Int) : Bool :=
  year % 4 == 0 && (year % 100 != 0 || year % 400 == 0)

def daysInMonth (year : Int) (month : Nat) : Nat :=
  if month == 2 then (if isLeapYear year then 29 else 28)
  else if month == 4 || month == 6 || month == 9 || month == 11 then 30
  else 31

/-- The day's number in its year, from 1. -/
def dayOfYear (t : Instant) : Nat :=
  ((List.range t.month).filter (0 < ·)).foldl (fun days m => days + daysInMonth t.year m) t.day

/-- The days before the first of January of a year, counted from the year 1. -/
def daysBeforeYear (year : Int) : Int :=
  let past := year - 1
  365 * past + past / 4 - past / 100 + past / 400

/-- The day's number, the first of January of the year 1 being day 1. -/
def dayNumber (t : Instant) : Int :=
  daysBeforeYear t.year + t.dayOfYear

/-- The weekday, from Sunday as 0 to Saturday as 6. -/
def weekday (t : Instant) : Nat :=
  (t.dayNumber % 7).toNat

/-- The weekday, from Monday as 0 to Sunday as 6. -/
def weekdayFromMonday (t : Instant) : Nat :=
  (t.weekday + 6) % 7

def isoWeeksInYear (year : Int) : Nat :=
  let lastWeekday (y : Int) : Int := (y + y / 4 - y / 100 + y / 400) % 7
  if lastWeekday year == 4 || lastWeekday (year - 1) == 3 then 53 else 52

/-- The year and week of the ISO calendar, whose weeks belong to the year of their Thursday. -/
def isoWeek (t : Instant) : Int × Nat :=
  let week := (t.dayOfYear + 9 - t.weekdayFromMonday) / 7
  if week == 0 then (t.year - 1, isoWeeksInYear (t.year - 1))
  else if isoWeeksInYear t.year < week then (t.year + 1, 1)
  else (t.year, week)

/-- The week of the year, weeks beginning at the day of which `sinceStart` days have passed. -/
def weekOfYear (t : Instant) (sinceStart : Nat) : Nat :=
  (t.dayOfYear + 6 - sinceStart) / 7

/-- Seconds since 1970 began in universal time. A leap second counts as the one before. -/
def timestamp (t : Instant) : Int :=
  (t.dayNumber - 719163) * 86400 + (t.hour * 3600 + t.minute * 60 + t.second : Nat) - t.offset

def hour12 (t : Instant) : Nat :=
  if t.hour % 12 == 0 then 12 else t.hour % 12

def isLeapSecond (t : Instant) : Bool :=
  1000000000 ≤ t.nanosecond

/-- The second as shown, 60 in a leap second. -/
def shownSecond (t : Instant) : Nat :=
  if t.isLeapSecond then t.second + 1 else t.second

def fraction (t : Instant) : Nat :=
  t.nanosecond % 1000000000

end Instant
end IssueFeed
