import Mathlib.Tactic.Linarith
import SheetIntake.Proofs.Calendar.NumeralPhrase
import SheetIntake.Proofs.Calendar.UnixText

/-!
# Compact dates as Unix times

The digits of a date without marks between them, as one number, are never the number of seconds or
milliseconds that have passed at that date since the start of 1970. Eight digits are too few
seconds, which leaves the first four years, and these digits are no multiple of a day there. Twelve
and fourteen digits are milliseconds; they end in the zeros of a whole minute or a whole hour, so
that few dates are left, and each of them is days away from its own number.
-/

namespace SheetIntake.Calendar

namespace Date

/-- A year has begun by a date exactly when its days come before the date. -/
theorem le_year_iff {date : Date} {year : Nat} :
    year ≤ date.year ↔ daysBeforeYear year < date.ordinal := by
  obtain ⟨after, before⟩ := date.ordinal_in_year
  constructor
  · intro begun
    exact Nat.lt_of_le_of_lt (daysBeforeYear_le begun) after
  · intro begun
    by_contra early
    have years : daysBeforeYear (date.year + 1) ≤ daysBeforeYear year :=
      daysBeforeYear_le (Nat.lt_of_not_le early)
    omega

theorem compact_bounds (date : Date) :
    date.year * 10000 + 101 ≤ date.compact ∧ date.compact ≤ date.year * 10000 + 1231 ∧
      date.year ≤ 9999 := by
  obtain ⟨_, late, dayFrom, _⟩ := date.exists_day
  have monthFrom := one_le_month_of_day date.exists_day
  obtain ⟨monthTo, dayTo⟩ := month_le_of_day date.exists_day
  unfold compact
  omega

/-- The number of the first day of 1970. -/
def epochDay : Nat := 719163

/-- Milliseconds of whole minutes that end in the digits of their time are those of whole days. -/
theorem tens_of_millis {days number hour minute : Nat} (inDay : hour < 24) (inHour : minute < 60)
    (same : days * 86400000 + (hour * 60 + minute) * 60000 = (number * 100 + hour) * 100 + minute) :
    days * 8640 = number := by
  have zeros : (hour * 100 + minute) % 10000 = 0 := by omega
  have midnight : hour = 0 ∧ minute = 0 := by
    clear same
    omega
  linarith

/-- Milliseconds of whole seconds that end in the digits of their time are those of a whole hour,
which is one of two. -/
theorem hundredths_of_millis {days number hour minute second : Nat} (inDay : hour < 24)
    (inHour : minute < 60) (inMinute : second < 60)
    (same : days * 86400000 + ((hour * 60 + minute) * 60 + second) * 1000 =
      ((number * 100 + hour) * 100 + minute) * 100 + second) :
    days * 432 = number * 5 ∨ days * 432 + 359 = number * 5 := by
  have seconds : (minute * 100 + second) % 1000 = 0 := by omega
  obtain rfl : second = 0 := by omega
  have minutes : days * 864000 + hour * 36000 + minute * 600 =
      number * 10000 + hour * 100 + minute := by linarith
  have zeros : minute % 100 = 0 := by omega
  obtain rfl : minute = 0 := by omega
  have hours : days * 8640 + hour * 360 = number * 100 + hour := by linarith
  have twenties : hour % 20 = 0 := by omega
  have either : hour = 0 ∨ hour = 20 := by omega
  rcases either with midnight | evening
  · left
    linarith
  · right
    linarith

section

variable {date : Date} {days : Nat} (passed : date.ordinal = epochDay + days)

include passed

/-- A year has begun by a date that lies some days after the start of 1970 when fewer days lie
before the year. -/
theorem le_year_iff_of_passed {year before : Nat} (known : daysBeforeYear year = before) :
    year ≤ date.year ↔ before < 719163 + days := by
  rw [le_year_iff, passed, known]
  rfl

theorem epoch_le_year : 1970 ≤ date.year := by
  rw [le_year_iff_of_passed passed (by rfl : daysBeforeYear 1970 = 719162)]
  omega

/-- The number of a date is never the seconds passed at its start. -/
theorem compact_ne_seconds : days * 86400 ≠ date.compact := by
  intro same
  obtain ⟨least, most, late⟩ := date.compact_bounds
  have begun := epoch_le_year passed
  have ended := le_year_iff_of_passed passed (by rfl : daysBeforeYear 1974 = 720623)
  have few : days ≤ 228 := by omega
  omega

/-- The number of a date is never a number of days in units of ten seconds. -/
theorem compact_ne_tens : days * 8640 ≠ date.compact := by
  intro same
  obtain ⟨least, most, late⟩ := date.compact_bounds
  have begun := epoch_le_year passed
  have begunLater := le_year_iff_of_passed passed (by rfl : daysBeforeYear 1976 = 721353)
  have ended := le_year_iff_of_passed passed (by rfl : daysBeforeYear 2002 = 730850)
  have endedEarlier := le_year_iff_of_passed passed (by rfl : daysBeforeYear 1977 = 721719)
  have few : days ≤ 2287 := by omega
  omega

/-- In one year alone the number of a date is about as great as that of its hundredths of
seconds. -/
theorem year_of_hundredths (least : days * 432 ≤ date.compact * 5)
    (most : date.compact * 5 ≤ days * 432 + 359) : date.year = 2883 := by
  obtain ⟨after, before⟩ := date.ordinal_in_year
  obtain ⟨compactLeast, compactMost, _⟩ := date.compact_bounds
  rw [passed] at after before
  simp only [daysBeforeYear, epochDay] at after before
  clear passed
  omega

/-- The number of a date is never that of its hundredths of seconds at midnight or at twenty
hours. -/
theorem compact_ne_hundredths :
    ¬ (days * 432 = date.compact * 5 ∨ days * 432 + 359 = date.compact * 5) := by
  intro same
  have year := year_of_hundredths passed (by omega) (by omega)
  obtain ⟨monthTo, dayTo⟩ := month_le_of_day date.exists_day
  have number : date.compact = (2883 * 100 + date.month) * 100 + date.day := by
    rw [compact, year]
  have placed : epochDay + days =
      daysBeforeYear 2883 + daysBeforeMonth 2883 date.month + date.day := by
    rw [← passed, ordinal, year]
  clear passed year
  rcases same with midnight | evening
  · have few : days = 333685 ∨ days = 333690 := by omega
    rcases few with rfl | rfl
    · omega
    · obtain ⟨month, day⟩ : date.month = 8 ∧ date.day = 16 := by omega
      rw [month, day] at placed
      exact absurd placed (by decide)
  · have few : days = 333683 ∨ days = 333688 ∨ days = 333693 := by omega
    rcases few with rfl | rfl | rfl
    · omega
    · obtain ⟨month, day⟩ : date.month = 7 ∧ date.day = 15 := by omega
      rw [month, day] at placed
      exact absurd placed (by decide)
    · omega

end

end Date

end SheetIntake.Calendar
