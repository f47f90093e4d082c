import Mathlib.Data.List.TakeWhile
import SheetIntake.Calendar.IsoText
import SheetIntake.Calendar.StrictText
import SheetIntake.Proofs.Calendar.Ordinal
import SheetIntake.Proofs.Decimal.Fixed
import SheetIntake.Store.Draft

/-!
# Reading ISO texts

The ISO text of a date-time is read as that date-time by the narrow reader of stored records. The
parts are followed in the order in which they are written: date, hours and minutes, seconds and
their fraction.
-/

namespace SheetIntake.Calendar

open SheetIntake.Decimal

namespace StrictText

theorem skip?_cons (character : Char) (rest : List Char) :
    skip? character (character :: rest) = some rest := by
  rw [skip?, if_pos rfl]

/-- A date is read from its characters. -/
theorem takeDate?_isoCharacters (date : Date) (rest : List Char) :
    takeDate? (date.isoCharacters ++ rest) = some (date, rest) := by
  have inMonth := month_le_of_day date.exists_day
  have yearFits : date.year < 10 ^ 4 := by
    have bound := date.exists_day.2.1
    omega
  have monthFits : date.month < 10 ^ 2 := by omega
  have dayFits : date.day < 10 ^ 2 := by omega
  simp only [takeDate?, Date.isoCharacters, List.append_assoc, List.cons_append,
    readDigits?_fixedDigits yearFits, readDigits?_fixedDigits monthFits,
    readDigits?_fixedDigits dayFits, skip?_cons, Date.of?_self, Option.bind_eq_bind,
    Option.bind_some, Option.pure_def]

/-- A fraction of six digits is read as microseconds. -/
theorem takeFraction_fixedDigits {micro : Nat} (fits : micro < 10 ^ 6) :
    takeFraction (fixedDigits 6 micro) = (micro, []) := by
  have digits : ∀ character ∈ fixedDigits 6 micro, character.isDigit = true :=
    fun _ => isDigit_of_mem_fixedDigits
  have all : (fixedDigits 6 micro).takeWhile Char.isDigit = fixedDigits 6 micro :=
    List.takeWhile_eq_self_iff.mpr digits
  have none : (fixedDigits 6 micro).dropWhile Char.isDigit = [] :=
    List.dropWhile_eq_nil_iff.mpr digits
  have six : (fixedDigits 6 micro).take 6 = fixedDigits 6 micro :=
    List.take_of_length_le (by rw [length_fixedDigits])
  simp only [takeFraction, all, none, six, foldl_fixedDigits, length_fixedDigits,
    Nat.mod_eq_of_lt fits, Nat.sub_self, power_zero, Nat.mul_one]

/-- Seconds are read with their fraction. -/
theorem takeSeconds?_isoCharacters {second micro : Nat} (secondFits : second < 10 ^ 2)
    (microFits : micro < 10 ^ 6) :
    takeSeconds? (fixedDigits 2 second ++ fractionCharacters micro) = some (second, micro, []) := by
  simp only [takeSeconds?, readDigits?_fixedDigits secondFits, Option.bind_eq_bind,
    Option.bind_some]
  by_cases whole : micro = 0
  · rw [fractionCharacters, if_pos whole, whole]
    rfl
  · rw [fractionCharacters, if_neg whole]
    have first : (fixedDigits 6 micro).head?.any Char.isDigit = true := by
      rw [fixedDigits_succ, List.head?_cons, Option.any_some]
      apply isDigit_of_mem_fixedDigits
      rw [fixedDigits_succ]
      exact List.mem_cons_self
    simp [first, takeFraction_fixedDigits microFits]

/-- A time of day is read from its characters. -/
theorem takeTime?_isoCharacters (time : TimeOfDay) :
    takeTime? time.isoCharacters = some (time, []) := by
  obtain ⟨hourBound, minuteBound, secondBound, microBound⟩ := time.in_range
  have hourFits : time.hour < 10 ^ 2 := by omega
  have minuteFits : time.minute < 10 ^ 2 := by omega
  have secondFits : time.second < 10 ^ 2 := by omega
  have microFits : time.micro < 10 ^ 6 := by omega
  simp only [takeTime?, TimeOfDay.isoCharacters, List.append_assoc, List.cons_append,
    readDigits?_fixedDigits hourFits, readDigits?_fixedDigits minuteFits, skip?_cons,
    takeSeconds?_isoCharacters secondFits microFits, TimeOfDay.of?_self, Option.bind_eq_bind,
    Option.bind_some, Option.pure_def]

/-- The ISO text of a date-time is read as a moment without an offset. -/
theorem readMoment?_charactersWith (clock : DateTime) :
    readMoment? (clock.charactersWith 'T') = some (.naive clock) := by
  simp only [readMoment?, DateTime.charactersWith, takeDate?_isoCharacters,
    takeTime?_isoCharacters, Option.bind_eq_bind, Option.bind_some, Option.pure_def]
  rfl

end StrictText

end SheetIntake.Calendar

namespace SheetIntake.Draft

open Calendar

/-- The wire form of a date-time is read as the date-time by the store. -/
theorem momentOfText?_isoText (clock : DateTime) :
    momentOfText? (Moment.naive clock).isoText = some (.naive clock) := by
  have characters : (Moment.naive clock).isoText.toList = clock.charactersWith 'T' := by
    rw [Moment.isoText, String.toList_ofList, Moment.charactersWith, Moment.naive]
    exact List.append_nil _
  rw [momentOfText?, characters, StrictText.readMoment?_charactersWith, Option.some_or]

end SheetIntake.Draft
