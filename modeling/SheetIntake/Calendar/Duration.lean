import SheetIntake.Calendar.TimeOfDay

/-!
# Durations

A duration is a signed number of microseconds. In fields it has whole days, rounded down, then
seconds within the day, then microseconds within the second.
-/

namespace SheetIntake.Calendar

/-- A span of time, exact to the microsecond. -/
structure Duration where
  micros : Int
  deriving DecidableEq, Repr

namespace Duration

/-- A span of days, seconds and microseconds, each of any size. -/
def ofFields (days seconds micros : Int) : Duration :=
  ⟨(days * 86400 + seconds) * 1000000 + micros⟩

/-- The whole days, rounded down. -/
def days (duration : Duration) : Int :=
  duration.micros.fdiv (Int.ofNat microsPerDay)

/-- The whole seconds after the whole days. -/
def seconds (duration : Duration) : Nat :=
  (duration.micros.fmod (Int.ofNat microsPerDay)).toNat / 1000000

/-- The microseconds after the whole seconds. -/
def microseconds (duration : Duration) : Nat :=
  (duration.micros.fmod (Int.ofNat microsPerDay)).toNat % 1000000

end Duration

end SheetIntake.Calendar
