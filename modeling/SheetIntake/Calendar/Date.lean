/-!
# Dates

Days of the Gregorian calendar, extended to the years 1 to 9999. A `Date` always names an existing
day. Days are counted by their ordinal, with day 1 being the first of January of year 1.
-/

namespace SheetIntake.Calendar

/-- Leap years are divisible by four, and by four hundred if by a hundred. -/
def isLeapYear (year : Nat) : Bool :=
  year % 4 == 0 && (year % 100 != 0 || year % 400 == 0)

/-- The number of days in a month of a year; zero for a number that is no month. -/
def daysInMonth (year month : Nat) : Nat :=
  match month with
  | 1 | 3 | 5 | 7 | 8 | 10 | 12 => 31
  | 4 | 6 | 9 | 11 => 30
  | 2 => if isLeapYear year then 29 else 28
  | _ => 0

/-- Whether year, month and day name an existing day. -/
def IsDate (year month day : Nat) : Prop :=
  1 ≤ year ∧ year ≤ 9999 ∧ 1 ≤ day ∧ day ≤ daysInMonth year month

instance (year month day : Nat) : Decidable (IsDate year month day) :=
  inferInstanceAs (Decidable (_ ∧ _ ∧ _ ∧ _))

/-- An existing day of the years 1 to 9999. -/
structure Date where
  year : Nat
  month : Nat
  day : Nat
  exists_day : IsDate year month day
  deriving DecidableEq

namespace Date

/-- The day with these numbers, if there is one. -/
def of? (year month day : Nat) : Option Date :=
  if exists_day : IsDate year month day then some ⟨year, month, day, exists_day⟩ else none

/-- The numbers of a date name it. -/
@[simp] theorem of?_self (date : Date) : of? date.year date.month date.day = some date := by
  simp [of?, date.exists_day]

/-- The number of days in the years before a year. -/
def daysBeforeYear (year : Nat) : Nat :=
  let passed := year - 1
  365 * passed + passed / 4 - passed / 100 + passed / 400

/-- The number of days in a year before a month. -/
def daysBeforeMonth (year : Nat) : Nat → Nat
  | 0 | 1 => 0
  | month + 2 => daysBeforeMonth year (month + 1) + daysInMonth year (month + 1)

/-- The number of a day, counted from the first of January of year 1, which is day 1. -/
def ordinal (date : Date) : Nat :=
  daysBeforeYear date.year + daysBeforeMonth date.year date.month + date.day

/-- The month and day that lie a number of days after the first of a month. -/
def monthAndDay (year : Nat) : Nat → Nat → Nat → Nat × Nat
  | 0, month, days => (month, days + 1)
  | fuel + 1, month, days =>
    if days < daysInMonth year month then (month, days + 1)
    else monthAndDay year fuel (month + 1) (days - daysInMonth year month)

/-- The year in which a day lies that comes a number of days after the first day of year 1. -/
def yearOfDays (days : Nat) : Nat :=
  let guess := days / 366 + 1
  let later := (List.range 30).filter fun index => daysBeforeYear (guess + index) ≤ days
  guess + later.length - 1

/-- The day with a given ordinal, if it lies in the years 1 to 9999. -/
def ofOrdinal? (ordinal : Int) : Option Date :=
  if 1 ≤ ordinal then
    let days := ordinal.toNat - 1
    let year := yearOfDays days
    let (month, day) := monthAndDay year 11 1 (days - daysBeforeYear year)
    of? year month day
  else none

/-- The day of the week, with Monday as zero. -/
def weekday (date : Date) : Nat :=
  (date.ordinal + 6) % 7

end Date

end SheetIntake.Calendar
