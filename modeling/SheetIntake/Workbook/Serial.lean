import SheetIntake.Calendar.Duration
import SheetIntake.Calendar.DateTime
import SheetIntake.Decimal.Numeral
import SheetIntake.Value
import SheetIntake.Workbook.NumberFormat

/-!
# Serial numbers of dates

A worksheet holds dates, times and durations as numbers of days. Dates are counted from an epoch.
Under the usual epoch a day that never was, the end of February 1900, is counted too, so that the
numbers below sixty are one less than the distance to the epoch. What is read from a number is
exact to the millisecond.
-/

namespace SheetIntake.Workbook

open Calendar Decimal

/-- The day from which a workbook counts. -/
inductive Epoch where
  /-- The thirtieth of December 1899. -/
  | year1900
  /-- The first of January 1904. -/
  | year1904
  deriving DecidableEq, Repr

/-- The ordinal of the day from which is counted. -/
def Epoch.ordinal : Epoch → Int
  | year1900 => 693594
  | year1904 => 695056

/-- The greatest number of whole days in a span of time. -/
def daysLimit : Int := 999999999

/-- The seconds of a day as a float. -/
def secondsPerDay : Float := 86400.0

/-- The nearest integer to a nonnegative float; a half goes to the even neighbour. -/
def nearestInteger? (value : Float) : Option Int :=
  match Exact.ofFloat value with
  | .finite _ mantissa exponent => some (Int.ofNat (Quotient.ofBinary mantissa exponent).round)
  | .infinite _ | .notANumber => none

/-- The whole days of a serial number and the part of a day after them, which is not negative. -/
def splitSerial? (serial : Float) : Option (Int × Float) := do
  let days ← floor? serial
  let after := fraction serial
  return (days, if serial < 0.0 && !isZero after then 1.0 - after else after)

/-- A number of microseconds as a number of whole milliseconds in microseconds; a half goes to the
even neighbour. -/
def toMilliseconds (micros : Nat) : Int :=
  Int.ofNat ((Decimal.Quotient.mk micros 1000).round * 1000)

/-- The duration of a number of days. -/
def durationOfSerial? (serial : Float) : Option Duration := do
  let negative := serial < 0.0
  let days ← floor? (if negative then -serial else serial)
  let micros ← nearestInteger? (fraction serial * Float.ofNat microsPerDay)
  let size := days * Int.ofNat microsPerDay + micros
  let exact : Duration := ⟨if negative then -size else size⟩
  if daysLimit < exact.days ∨ exact.days < -daysLimit then none
  else some (.ofFields exact.days exact.seconds (toMilliseconds exact.microseconds))

/-- The date-time some days after the epoch and some milliseconds after midnight. -/
def dateTimeAfter? (epoch : Epoch) (days milliseconds : Int) : Option DateTime :=
  DateTime.ofMicros? ((epoch.ordinal - 1 + days) * Int.ofNat microsPerDay + milliseconds * 1000)

/-- The date-time of a serial number, or the time of day of one that is less than a day. -/
def momentOfSerial? (epoch : Epoch) (serial : Float) : Option Value := do
  let (days, part) ← splitSerial? serial
  let milliseconds ← nearestInteger? (part * secondsPerDay * 1000.0)
  if days = 0 ∧ milliseconds < 86400000 then
    return .time (.ofMicros (milliseconds * 1000).toNat)
  else
    let shifted := if 0.0 < serial && serial < 60.0 && epoch = .year1900 then days + 1 else days
    let clock ← dateTimeAfter? epoch shifted milliseconds
    return .dateTime clock

/-- The text that takes the place of a date that does not exist. -/
def noSuchDate : String := "#VALUE!"

/-- What a serial number under a date format stands for. -/
def dateOfSerial (epoch : Epoch) (serial : Float) : Value :=
  (momentOfSerial? epoch serial).getD (.text noSuchDate)

/-- What a serial number under an elapsed-time format stands for. -/
def spanOfSerial (serial : Float) : Value :=
  match durationOfSerial? serial with
  | some duration => .duration duration
  | none => .text noSuchDate

/-- What a number of a cell stands for, by the format under which it is shown. -/
def NumberMeaning.apply (meaning : NumberMeaning) (epoch : Epoch) (number : Value) : Value :=
  let serial? : Option Float :=
    match number with
    | .int value => ofInteger? value
    | .float value => some value
    | _ => none
  match meaning, serial? with
  | .number, _ => number
  | .date, some serial => dateOfSerial epoch serial
  | .duration, some serial => spanOfSerial serial
  | .date, none | .duration, none => .text noSuchDate

/-- The part of a day that has passed at a time. -/
def serialOfTime (time : TimeOfDay) : Float :=
  let seconds := (time.hour * 60 + time.minute) * 60 + time.second
  (Float.ofNat seconds + Float.ofScientific time.micro true 6) / secondsPerDay

/-- The number of days in a duration. -/
def serialOfDuration (duration : Duration) : Float :=
  let size := Float.ofScientific duration.micros.natAbs true 6
  (if duration.micros < 0 then -size else size) / secondsPerDay

/-- The serial number of a date-time under the usual epoch. -/
def serialOfDateTime (clock : DateTime) : Float :=
  let distance := Int.ofNat clock.date.ordinal - Epoch.year1900.ordinal
  let days := if 0 < distance ∧ distance ≤ 60 then distance - 1 else distance
  Float.ofInt days + serialOfTime clock.time

end SheetIntake.Workbook
