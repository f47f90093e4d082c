import SheetIntake.Proofs.Calendar.CompactDate
import SheetIntake.Proofs.Calendar.UnixFraction

/-!
# Counted and named dates

A numeral that counts the time since the start of 1970 never stands for a date that its digits name.
Each way to name a date is excluded by its own reason: the date lies before the counted dates, or
after those that few digits reach, or within the first day, or its number is not the one that is
counted at it.
-/

namespace SheetIntake.Calendar

open SheetIntake.Decimal SheetIntake.Text UnixTime

namespace DateTime

/-- The days and seconds at a date-time that lies some microseconds after the start of 1970. -/
theorem exists_days_of_micros {date : Date} {time : TimeOfDay} {passed : Nat}
    (exact : time.micro = 0)
    (place : (DateTime.mk date time).micros = epochMicros + passed) :
    ∃ days, date.ordinal = Date.epochDay + days ∧
      days * 86400000000 + ((time.hour * 60 + time.minute) * 60 + time.second) * 1000000 =
        passed := by
  have inDay := time.in_range
  unfold IsTime at inDay
  rw [micros_eq] at place
  simp only [TimeOfDay.micros, epochMicros, exact] at place
  refine ⟨date.ordinal - 719163, ?_, ?_⟩
  · unfold Date.epochDay
    omega
  · omega

/-- The microseconds at a date-time, by a year that has not begun there. -/
theorem micros_lt_of_year_lt {clock : DateTime} {year : Nat} (before : clock.date.year < year) :
    clock.micros < (Date.daysBeforeYear year : Int) * 86400000000 := by
  have notBegun := mt Date.le_year_iff.mpr (Nat.not_le.mpr before)
  have within := micros_lt clock.time
  unfold microsPerDay at within
  rw [micros_eq]
  omega

/-- The microseconds at a date-time, by a year that has begun there. -/
theorem le_micros_of_le_year {clock : DateTime} {year : Nat} (begun : year ≤ clock.date.year) :
    (Date.daysBeforeYear year : Int) * 86400000000 ≤ clock.micros := by
  have days := Date.le_year_iff.mp begun
  rw [micros_eq]
  omega

end DateTime

/-- The midnight of a date is not within the first day of 1970. -/
theorem not_within_first_day (date : Date) :
    ¬ (epochMicros < (DateTime.atMidnight date).micros ∧
      (DateTime.atMidnight date).micros < epochMicros + 86400 * 1000000) := by
  have midnight : TimeOfDay.midnight.micros = 0 := by decide
  rw [DateTime.atMidnight, DateTime.micros_eq, midnight, epochMicros]
  omega

section

variable {date : Date} {time : TimeOfDay} {number : Nat}
  (counted : (DateTime.mk date time).micros = epochMicros + countedMicros number)

include counted

/-- Twelve digits are too many seconds, and no milliseconds of their date. -/
theorem ne_of_toMinute (exact : time.second = 0 ∧ time.micro = 0) :
    number ≠ (date.compact * 100 + time.hour) * 100 + time.minute := by
  intro same
  obtain ⟨days, ordinal, passed⟩ :=
    DateTime.exists_days_of_micros exact.2 counted
  have begun := Date.epoch_le_year ordinal
  obtain ⟨least, most, late⟩ := date.compact_bounds
  obtain ⟨inDay, inHour, _⟩ := time.in_range
  have many : ¬ number ≤ secondsLimit := by
    unfold secondsLimit
    omega
  rw [countedMicros, if_neg many, exact.1] at passed
  refine Date.compact_ne_tens ordinal (Date.tens_of_millis inDay inHour ?_)
  linarith

/-- Fourteen digits are too many seconds, and no milliseconds of their date. -/
theorem ne_of_toSecond (exact : time.micro = 0) :
    number ≠ ((date.compact * 100 + time.hour) * 100 + time.minute) * 100 + time.second := by
  intro same
  obtain ⟨days, ordinal, passed⟩ :=
    DateTime.exists_days_of_micros exact counted
  have begun := Date.epoch_le_year ordinal
  obtain ⟨least, most, late⟩ := date.compact_bounds
  obtain ⟨inDay, inHour, inMinute, _⟩ := time.in_range
  have many : ¬ number ≤ secondsLimit := by
    unfold secondsLimit
    omega
  rw [countedMicros, if_neg many] at passed
  refine Date.compact_ne_hundredths ordinal (Date.hundredths_of_millis inDay inHour inMinute ?_)
  linarith

end

/-- The moment that a numeral counts is not at a date-time that the numeral names. -/
theorem clock_ne_of_counts {whole tail : List Char} {moment : Moment} {clock : DateTime}
    (begins : epochMicros + earliest * 1000000 ≤ moment.clock.micros)
    (counts : Counts whole tail moment)
    (names : NumeralNames (numberOf whole) (tail = [] ∨ tail = ['.']) clock) :
    moment.clock ≠ clock := by
  intro same
  have inFirstDay := micros_bounds_of_counts counts
  have counted := micros_of_counts counts
  rw [same] at begins inFirstDay counted
  cases names with
  | time first =>
    have early := @DateTime.micros_lt_of_year_lt clock 2 (by omega)
    have days : Date.daysBeforeYear 2 = 365 := rfl
    rw [days] at early
    unfold epochMicros earliest at begins
    omega
  | day positive bounded =>
    exact not_within_first_day _ (inFirstDay positive (Nat.lt_succ_of_le bounded))
  | short plain bounded late =>
    have begun := DateTime.le_micros_of_le_year late
    have days : Date.daysBeforeYear 1976 = 721353 := rfl
    have few : numberOf whole ≤ secondsLimit := Nat.le_trans (Nat.le_of_lt bounded) (by decide)
    have place := counted plain (by omega)
    rw [countedMicros, if_pos few] at place
    rw [days] at begun
    unfold epochMicros at place
    omega
  | @compact date plain number =>
    obtain ⟨least, most, late⟩ := date.compact_bounds
    have few : numberOf whole ≤ secondsLimit := by
      unfold secondsLimit
      omega
    have place := counted plain (by omega)
    rw [countedMicros, if_pos few] at place
    obtain ⟨days, ordinal, passed⟩ := @DateTime.exists_days_of_micros date .midnight _ rfl place
    refine Date.compact_ne_seconds ordinal ?_
    change days * 86400000000 + 0 * 1000000 = _ at passed
    linarith
  | @toMinute date time plain exact number =>
    obtain ⟨least, most, late⟩ := date.compact_bounds
    obtain ⟨inDay, inHour, _⟩ := time.in_range
    exact ne_of_toMinute (counted plain (by omega)) exact number
  | @toSecond date time plain exact number =>
    obtain ⟨least, most, late⟩ := date.compact_bounds
    obtain ⟨inDay, inHour, inMinute, _⟩ := time.in_range
    exact ne_of_toSecond (counted plain (by omega)) exact number

end SheetIntake.Calendar
