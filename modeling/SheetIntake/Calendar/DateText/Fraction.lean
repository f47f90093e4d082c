import SheetIntake.Calendar.DateTime
import SheetIntake.Calendar.DateText.Token
import SheetIntake.Decimal.Numeral

/-!
# Fine fractions

A fraction of a second with more than six digits makes a date text count nanoseconds, in whole
numbers of 64 bits. Only the moments from 1677 to 2262 can be counted in this way; a text that
names another one is no date. The digits after the sixth are lost in the end.
-/

namespace SheetIntake.Calendar

open SheetIntake.Decimal SheetIntake.Text

namespace DateTime

/-- The nanoseconds from the start of 1970 to a date-time with more digits after its sixth; three
of them count. -/
def nanos (clock : DateTime) (finer : List Nat) : Int :=
  (clock.micros - epochMicros) * 1000 +
    Int.ofNat (valueOfDigits ((finer ++ List.replicate 3 0).take 3))

/-- Whether a date-time can be kept: with more than six digits, its nanoseconds are counted. -/
def IsCountable (clock : DateTime) (finer : List Nat) : Prop :=
  finer = [] ∨ (clock.nanos finer).natAbs < 9223372036854775808

instance (clock : DateTime) (finer : List Nat) : Decidable (clock.IsCountable finer) :=
  inferInstanceAs (Decidable (_ ∨ _))

end DateTime

namespace DateText

/-- The digits of a fraction of a second, in a text that begins with the last digit of an hour.
Minutes and seconds have two digits each, with colons before them. -/
def clockFraction : List Char → List Nat
  | hour :: ':' :: tenMinutes :: minutes :: ':' :: tenSeconds :: seconds :: '.' :: fraction =>
    if [hour, tenMinutes, minutes, tenSeconds, seconds].all isDigitCharacter then
      (takeDigits digitValue? fraction).1
    else []
  | _ => []

/-- The digits after the sixth in the first fraction of a second of a text. -/
def finerDigits : List Char → List Nat
  | [] => []
  | character :: rest =>
    match clockFraction (character :: rest) with
    | [] => finerDigits rest
    | digits => digits.drop 6

end DateText

end SheetIntake.Calendar
