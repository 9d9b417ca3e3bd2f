import IamLogin.Number.Decimal

/-!
# Durations

A duration is a whole number of microseconds, of either sign. It is shown in days, seconds and
microseconds, of which only the days can be negative. A duration received as a number of seconds
is limited: its days must fit 32 bits to be counted at all, and lie within nine digits to be kept.
-/

namespace IamLogin

/-- A duration. -/
structure Duration where
  /-- Its length in microseconds. -/
  micros : Int
deriving DecidableEq, Repr

namespace Duration

/-- Microseconds in a second. -/
def microsPerSecond : Int := 1000000

/-- Seconds in a day. -/
def secondsPerDay : Int := 86400

/-- The duration of some days, seconds and microseconds together. -/
def ofParts (days seconds micros : Int) : Duration :=
  ⟨(days * secondsPerDay + seconds) * microsPerSecond + micros⟩

/-- No time at all. -/
def zero : Duration := ⟨0⟩

/-- The whole seconds in a duration, rounded down. -/
def wholeSeconds (d : Duration) : Int := d.micros.fdiv microsPerSecond

/-- The days of a duration, rounded down. -/
def days (d : Duration) : Int := d.wholeSeconds.fdiv secondsPerDay

/-- The seconds beyond the days. -/
def seconds (d : Duration) : Int := d.wholeSeconds.fmod secondsPerDay

/-- The microseconds beyond the seconds. -/
def microseconds (d : Duration) : Int := d.micros.fmod microsPerSecond

/-- Why a number of seconds makes no duration. -/
inductive Fault where
  /-- The number of days does not fit 32 bits. -/
  | uncountable
  /-- The number of days has too many digits. -/
  | tooManyDays (days : Int)
deriving DecidableEq, Repr

/-- The wording of a fault. -/
def Fault.message : Fault → String
  | .uncountable => "Python int too large to convert to C int"
  | .tooManyDays days => "days=" ++ Decimal.text days ++ "; must have magnitude <= 999999999"

/-- The greatest number of days, on either side of zero. -/
def dayLimit : Int := 999999999

/-- The duration of a number of seconds. -/
def ofSeconds (n : Int) : Except Fault Duration :=
  let days := n.fdiv secondsPerDay
  if days < -0x80000000 ∨ 0x80000000 ≤ days then .error .uncountable
  else if days < -dayLimit ∨ dayLimit < days then .error (.tooManyDays days)
  else .ok ⟨n * microsPerSecond⟩

/-- A duration as it is shown: the parts that are not zero, by name. -/
def inspect (d : Duration) : String :=
  let part (name : String) (n : Int) : List String :=
    if n = 0 then [] else [name ++ "=" ++ Decimal.text n]
  let parts := part "days" d.days ++ part "seconds" d.seconds ++ part "microseconds" d.microseconds
  "datetime.timedelta(" ++ (if parts.isEmpty then "0" else ", ".intercalate parts) ++ ")"

/-- The parts of a duration add up to it. -/
theorem ofParts_parts (d : Duration) : ofParts d.days d.seconds d.microseconds = d := by
  have h₁ := Int.mul_fdiv_add_fmod d.micros microsPerSecond
  have h₂ := Int.mul_fdiv_add_fmod d.wholeSeconds secondsPerDay
  cases d with
  | mk micros =>
    simp only [ofParts, days, seconds, microseconds, wholeSeconds, mk.injEq] at *
    rw [Int.mul_comm _ secondsPerDay, h₂, Int.mul_comm _ microsPerSecond, h₁]

end Duration

end IamLogin
