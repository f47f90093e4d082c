import SheetIntake.Calendar.Date
import SheetIntake.Calendar.TimeOfDay

/-!
# Date-times

A `DateTime` is a date and a time of day without a time zone. A `Moment` may also say how far its
clock is ahead of universal time.
-/

namespace SheetIntake.Calendar

/-- A date and a time of day, without a time zone. -/
structure DateTime where
  date : Date
  time : TimeOfDay
  deriving DecidableEq

/-- The microseconds from the start of year 1 to the start of 1970. -/
def epochMicros : Int := 62135596800000000

namespace DateTime

/-- The date-time with these fields, if there is one. -/
def of? (year month day hour minute second micro : Nat) : Option DateTime := do
  let date ← Date.of? year month day
  let time ← TimeOfDay.of? hour minute second micro
  return ⟨date, time⟩

/-- Midnight at the start of a date. -/
def atMidnight (date : Date) : DateTime := ⟨date, .midnight⟩

/-- The microseconds from midnight at the start of year 1. -/
def micros (dateTime : DateTime) : Int :=
  (Int.ofNat dateTime.date.ordinal - 1) * Int.ofNat microsPerDay + Int.ofNat dateTime.time.micros

/-- The date-time a number of microseconds after midnight at the start of year 1, if it lies in
the years 1 to 9999. -/
def ofMicros? (micros : Int) : Option DateTime :=
  (Date.ofOrdinal? (micros.fdiv (Int.ofNat microsPerDay) + 1)).map fun date =>
    ⟨date, .ofMicros (micros.fmod (Int.ofNat microsPerDay)).toNat⟩

/-- A later date-time, or an earlier one for a negative number of microseconds. -/
def addMicros? (dateTime : DateTime) (micros : Int) : Option DateTime :=
  ofMicros? (dateTime.micros + micros)

end DateTime

/-- How many minutes a clock is ahead of universal time: less than a day either way. -/
structure Offset where
  minutes : Int
  less_than_day : minutes.natAbs < 1440
  deriving DecidableEq

namespace Offset

/-- The offset of a number of minutes, if it is less than a day. -/
def of? (minutes : Int) : Option Offset :=
  if less_than_day : minutes.natAbs < 1440 then some ⟨minutes, less_than_day⟩ else none

/-- No distance from universal time. -/
def utc : Offset := ⟨0, by decide⟩

end Offset

/-- What a clock shows, and how far the clock is ahead of universal time if that is known. -/
structure Moment where
  clock : DateTime
  offset : Option Offset
  deriving DecidableEq

/-- A moment whose clock has no known offset. -/
def Moment.naive (clock : DateTime) : Moment := ⟨clock, none⟩

end SheetIntake.Calendar
