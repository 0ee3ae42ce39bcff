/-!
# ChainParams — calendar time

Moments in UTC from the start of 1970 to the end of year 262142, in whole seconds.
The calendar is the Gregorian one throughout. For its arithmetic a year starts on the
first of March, so that the leap day is its last; 400 years are a cycle of 146097 days.

* `Date.ofDays`     — the date a number of days after the start of 1970.
* `Utc.ofSeconds?`  — the moment a number of seconds after the start of 1970.
* `Utc.rfc3339`     — its text; a year of more than four digits has a sign in front.
-/

namespace ChainParams

/-- A day of the Gregorian calendar. -/
structure Date where
  year : Nat
  month : Nat
  day : Nat
deriving DecidableEq

namespace Date

/-- The days in a cycle of 400 years. -/
def daysPerCycle : Nat := 146097

/-- The days from the first of March of year 0 to the start of 1970. -/
def daysBeforeEpoch : Nat := 719468

/-- The year of a cycle, counted from March, in which a day of the cycle lies: the leap
days before it are taken out, and what is left has 365 days a year. -/
def yearOfCycle (day : Nat) : Nat :=
  (day - day / 1460 + day / 36524 - day / 146096) / 365

/-- The days of a cycle before one of its years. -/
def daysBeforeYear (year : Nat) : Nat :=
  365 * year + year / 4 - year / 100

/-- The month, counted from March, in which a day of the year lies. From March on the
lengths of the months repeat after 153 days. -/
def monthOfYear (day : Nat) : Nat :=
  (5 * day + 2) / 153

/-- The days of the year, counted from March, before one of its months. -/
def daysBeforeMonth (month : Nat) : Nat :=
  (153 * month + 2) / 5

/-- The date a number of days after the start of 1970. -/
def ofDays (days : Nat) : Date :=
  let shifted := days + daysBeforeEpoch
  let dayOfCycle := shifted % daysPerCycle
  let year := yearOfCycle dayOfCycle
  let dayOfYear := dayOfCycle - daysBeforeYear year
  let month := monthOfYear dayOfYear
  { year := shifted / daysPerCycle * 400 + year + (if month < 10 then 0 else 1)
    month := if month < 10 then month + 3 else month - 9
    day := dayOfYear - daysBeforeMonth month + 1 }

end Date

-- ---------------------------------------------------------------------------
-- Moments
-- ---------------------------------------------------------------------------

/-- The last year of the calendar. -/
def lastYear : Nat := 262142

/-- The seconds in a day. -/
def secondsPerDay : Nat := 86400

/-- A moment in UTC, in seconds after the start of 1970. -/
structure Utc where
  timestamp : Nat
  year_le : (Date.ofDays (timestamp / secondsPerDay)).year ≤ lastYear
deriving DecidableEq

namespace Utc

/-- The moment a number of seconds after the start of 1970, up to the last year. -/
def ofSeconds? (seconds : Nat) : Option Utc :=
  if h : (Date.ofDays (seconds / secondsPerDay)).year ≤ lastYear then some ⟨seconds, h⟩ else none

/-- The date of a moment. -/
def date (t : Utc) : Date :=
  Date.ofDays (t.timestamp / secondsPerDay)

/-- A number with zeros in front up to `width` digits. -/
def digits (width n : Nat) : String :=
  String.ofList ((Nat.toDigits 10 n).leftpad width '0')

/-- The text of a moment: date, time of day and the offset of UTC. -/
def rfc3339 (t : Utc) : String :=
  let d := t.date
  let second := t.timestamp % secondsPerDay
  let year := if d.year ≤ 9999 then digits 4 d.year else s!"+{d.year}"
  s!"{year}-{digits 2 d.month}-{digits 2 d.day}T{digits 2 (second / 3600)}:{digits 2 (second / 60 % 60)}:{digits 2 (second % 60)}+00:00"

end Utc

end ChainParams
