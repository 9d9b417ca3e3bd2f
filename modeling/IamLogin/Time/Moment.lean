import IamLogin.Number.Double
import IamLogin.Time.Duration

/-!
# Moments

A moment is read off a clock as a date, a time of day and, if the clock knows it, an offset from
universal time; a clock without an offset shows universal time. `Moment.sinceEpoch` places it on the
time line, and `Moment.timestamp` is the whole number of seconds by which expiry is counted.
-/

namespace IamLogin

/-- A reading of a clock. -/
structure Moment where
  /-- The year. -/
  year : Int
  /-- The month, from 1. -/
  month : Nat
  /-- The day of the month, from 1. -/
  day : Int
  /-- The hour. -/
  hour : Int
  /-- The minute. -/
  minute : Int
  /-- The second. -/
  second : Int
  /-- The microsecond. -/
  microsecond : Int
  /-- Microseconds by which the clock is ahead of universal time. -/
  offset : Option Int
deriving DecidableEq, Repr

namespace Moment

/-- Whether a year has a leap day. -/
def isLeap (year : Int) : Bool := year % 4 = 0 && (year % 100 != 0 || year % 400 = 0)

/-- The days before a year, counted from the first year. -/
def daysBeforeYear (year : Int) : Int :=
  let y := year - 1
  y * 365 + y / 4 - y / 100 + y / 400

/-- The days of a year before a month. -/
def daysBeforeMonth (year : Int) (month : Nat) : Int :=
  let february : Int := if isLeap year then 29 else 28
  let lengths : List Int := [31, february, 31, 30, 31, 30, 31, 31, 30, 31, 30, 31]
  (lengths.take (month - 1)).foldl (· + ·) 0

/-- The days from the first year to the epoch, the beginning of 1970. -/
def epochDay : Int := 719163

/-- The days from the epoch to the day of a reading. -/
def dayNumber (m : Moment) : Int :=
  daysBeforeYear m.year + daysBeforeMonth m.year m.month + m.day - epochDay

/-- The time from the epoch to a moment. -/
def sinceEpoch (m : Moment) : Duration :=
  Duration.ofParts m.dayNumber
    ((m.hour * 60 + m.minute) * 60 + m.second) (m.microsecond - m.offset.getD 0)

/-- The seconds from the epoch as a floating-point number. -/
def seconds (m : Moment) : Double :=
  let micros := m.sinceEpoch.micros
  Double.ofRatio (micros < 0) micros.natAbs Duration.microsPerSecond.toNat

/-- The whole seconds from the epoch, without what follows the point of that number. -/
def timestamp (m : Moment) : Int := m.seconds.truncate

/-- Whether the parts of a reading are in their ranges. -/
def isValid (m : Moment) : Bool :=
  1 ≤ m.year && m.year ≤ 9999 && 1 ≤ m.month && m.month ≤ 12 && 1 ≤ m.day &&
    m.day ≤ daysBeforeMonth m.year (m.month + 1) - daysBeforeMonth m.year m.month &&
    0 ≤ m.hour && m.hour < 24 && 0 ≤ m.minute && m.minute < 60 &&
    0 ≤ m.second && m.second < 60 &&
    0 ≤ m.microsecond && m.microsecond < 1000000 &&
    -86400000000 < m.offset.getD 0 && m.offset.getD 0 < 86400000000

example : dayNumber ⟨1970, 1, 1, 0, 0, 0, 0, none⟩ = 0 := by decide
example : dayNumber ⟨2024, 2, 29, 0, 0, 0, 0, none⟩ = 19782 := by decide

end Moment

end IamLogin
