import DocMapper.Duration
/-!
Instants in UTC and the calendar dates they fall on. Dates are those of the Gregorian
calendar carried back without a break, with a year zero; days are counted from 1970.
-/

namespace DocMapper

/-- Seconds since 1970 and a fraction; within a leap second the fraction is a second or more. -/
structure Instant where
  secs : Int
  nanos : Nat
deriving DecidableEq, Repr

structure Date where
  year : Int
  month : Nat
  day : Nat
deriving DecidableEq, Repr

namespace Date

def isLeap (year : Int) : Bool :=
  year % 4 = 0 && (year % 100 ≠ 0 || year % 400 = 0)

def daysInMonth (year : Int) (month : Nat) : Nat :=
  if month = 2 then (if isLeap year then 29 else 28)
  else if month = 4 || month = 6 || month = 9 || month = 11 then 30
  else 31

/-- The years dates are kept for. -/
def inRange (year : Int) : Bool :=
  -262143 ≤ year && year ≤ 262142

def valid (d : Date) : Bool :=
  inRange d.year && 1 ≤ d.month && d.month ≤ 12 && 1 ≤ d.day && d.day ≤ daysInMonth d.year d.month

def toDays (d : Date) : Int :=
  -- Days since 1970. The year is taken to begin in March, so that a leap day ends it.
  let y := if d.month ≤ 2 then d.year - 1 else d.year
  let era := y / 400
  let yearOfEra := y - era * 400
  let monthFromMarch : Int := if d.month ≤ 2 then d.month + 9 else d.month - 3
  let dayOfYear := (153 * monthFromMarch + 2) / 5 + d.day - 1
  era * 146097 + (yearOfEra * 365 + yearOfEra / 4 - yearOfEra / 100 + dayOfYear) - 719468

def ofDays (days : Int) : Date :=
  let shifted := days + 719468
  let era := shifted / 146097
  let dayOfEra := shifted - era * 146097
  let yearOfEra := (dayOfEra - dayOfEra / 1460 + dayOfEra / 36524 - dayOfEra / 146096) / 365
  let dayOfYear := dayOfEra - (365 * yearOfEra + yearOfEra / 4 - yearOfEra / 100)
  let monthFromMarch := (5 * dayOfYear + 2) / 153
  let day := dayOfYear - (153 * monthFromMarch + 2) / 5 + 1
  let month := if monthFromMarch < 10 then monthFromMarch + 3 else monthFromMarch - 9
  let year := yearOfEra + era * 400
  ⟨if month ≤ 2 then year + 1 else year, month.toNat, day.toNat⟩

def ordinal (d : Date) : Nat :=
  (d.toDays - (Date.mk d.year 1 1).toDays + 1).toNat

def daysFromMonday (d : Date) : Nat :=
  ((d.toDays + 3) % 7).toNat

def daysFromSunday (d : Date) : Nat :=
  ((d.toDays + 4) % 7).toNat

def quarter (d : Date) : Nat :=
  (d.month + 2) / 3

def isoWeeksIn (year : Int) : Int :=
  let newYear : Date := ⟨year, 1, 1⟩
  if newYear.daysFromMonday = 3 || (isLeap year && newYear.daysFromMonday = 2) then 53 else 52

def isoWeek (d : Date) : Int × Nat :=
  -- The year and number of the week, which belongs to the year that has its Thursday.
  let week : Int := ((d.ordinal : Int) - (d.daysFromMonday + 1) + 10) / 7
  if week < 1 then (d.year - 1, (isoWeeksIn (d.year - 1)).toNat)
  else if isoWeeksIn d.year < week then (d.year + 1, 1)
  else (d.year, week.toNat)

end Date

namespace Instant

def ofMillis (n : Int) : Instant :=
  ⟨n / 1000, (n % 1000).toNat * 1000000⟩

def toMillis (i : Instant) : Int :=
  i.secs * 1000 + i.nanos / 1000000

def toNanos (i : Instant) : Int :=
  i.secs * 1000000000 + i.nanos

def date (i : Instant) : Date :=
  .ofDays (i.secs / 86400)

def secondOfDay (i : Instant) : Nat :=
  (i.secs % 86400).toNat

def hour (i : Instant) : Nat := i.secondOfDay / 3600

def minute (i : Instant) : Nat := i.secondOfDay / 60 % 60

def second (i : Instant) : Nat := i.secondOfDay % 60

/-- An instant of a date that is kept. -/
def inRange (i : Instant) : Bool :=
  Date.inRange i.date.year

def ofMillis? (n : Int) : Option Instant :=
  let i := ofMillis n
  if i.inRange then some i else none

/-- The time from one instant to another; none if it has not come yet. -/
def since (later earlier : Instant) : Duration :=
  ⟨(later.toNanos - earlier.toNanos).toNat⟩

def addMillis (i : Instant) (n : Nat) : Instant :=
  let nanos := i.nanos + n % 1000 * 1000000
  ⟨i.secs + n / 1000 + nanos / 1000000000, nanos % 1000000000⟩

def addDuration (i : Instant) (d : Duration) : Instant :=
  let nanos := i.nanos + d.subsecNanos
  ⟨i.secs + d.secs + nanos / 1000000000, nanos % 1000000000⟩

end Instant

end DocMapper
