/-!
# Times of day

A time of day has hours, minutes, seconds and microseconds, each within its range. It is also a
number of microseconds after midnight.
-/

namespace SheetIntake.Calendar

/-- The microseconds of a day. -/
def microsPerDay : Nat := 86400000000

/-- Whether the fields of a clock are within their ranges. -/
def IsTime (hour minute second micro : Nat) : Prop :=
  hour < 24 ∧ minute < 60 ∧ second < 60 ∧ micro < 1000000

instance (hour minute second micro : Nat) : Decidable (IsTime hour minute second micro) :=
  inferInstanceAs (Decidable (_ ∧ _ ∧ _ ∧ _))

/-- A time of day, exact to the microsecond. -/
@[ext] structure TimeOfDay where
  hour : Nat
  minute : Nat
  second : Nat
  micro : Nat
  in_range : IsTime hour minute second micro
  deriving DecidableEq

namespace TimeOfDay

/-- The time with these fields, if they are within their ranges. -/
def of? (hour minute second micro : Nat) : Option TimeOfDay :=
  if in_range : IsTime hour minute second micro then some ⟨hour, minute, second, micro, in_range⟩
  else none

/-- The fields of a time give the time. -/
@[simp] theorem of?_self (time : TimeOfDay) :
    of? time.hour time.minute time.second time.micro = some time := by
  simp [of?, time.in_range]

/-- Midnight at the start of a day. -/
def midnight : TimeOfDay := ⟨0, 0, 0, 0, by decide⟩

/-- The microseconds passed since midnight. -/
def micros (time : TimeOfDay) : Nat :=
  ((time.hour * 60 + time.minute) * 60 + time.second) * 1000000 + time.micro

/-- The time at which a number of microseconds has passed since midnight; whole days are
dropped. -/
def ofMicros (micros : Nat) : TimeOfDay where
  hour := micros / 3600000000 % 24
  minute := micros / 60000000 % 60
  second := micros / 1000000 % 60
  micro := micros % 1000000
  in_range := by unfold IsTime; omega

/-- Counting the microseconds of a time and going back gives the time. -/
theorem ofMicros_micros (time : TimeOfDay) : ofMicros time.micros = time := by
  have inRange := time.in_range
  unfold IsTime at inRange
  ext <;> simp only [ofMicros, micros] <;> omega

end TimeOfDay

end SheetIntake.Calendar
