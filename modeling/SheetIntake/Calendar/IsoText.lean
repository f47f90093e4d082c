import SheetIntake.Calendar.DateTime
import SheetIntake.Calendar.Duration
import SheetIntake.Decimal.Fixed

/-!
# ISO texts of dates, times and durations

Dates and times are written with fixed widths; a fraction of a second is written only when there
is one, and then with six digits. Durations count years of 365 days, days, hours, minutes and
seconds, and leave out what is zero.
-/

namespace SheetIntake.Calendar

open SheetIntake.Decimal

/-- A date as year, month and day. -/
def Date.isoCharacters (date : Date) : List Char :=
  fixedDigits 4 date.year ++ '-' :: fixedDigits 2 date.month ++ '-' :: fixedDigits 2 date.day

/-- The six digits of a fraction of a second after a point, or nothing for a whole second. -/
def fractionCharacters (micro : Nat) : List Char :=
  if micro = 0 then [] else '.' :: fixedDigits 6 micro

/-- A time of day as hours, minutes and seconds. -/
def TimeOfDay.isoCharacters (time : TimeOfDay) : List Char :=
  fixedDigits 2 time.hour ++ ':' :: fixedDigits 2 time.minute ++ ':' :: fixedDigits 2 time.second ++
    fractionCharacters time.micro

/-- A date-time, with a character between date and time. -/
def DateTime.charactersWith (separator : Char) (dateTime : DateTime) : List Char :=
  dateTime.date.isoCharacters ++ separator :: dateTime.time.isoCharacters

/-- An offset as a sign, hours and minutes. -/
def Offset.isoCharacters (offset : Offset) : List Char :=
  (if offset.minutes < 0 then '-' else '+') ::
    fixedDigits 2 (offset.minutes.natAbs / 60) ++ ':' ::
      fixedDigits 2 (offset.minutes.natAbs % 60)

/-- A date-time and its offset, if it has one. -/
def Moment.charactersWith (separator : Char) (moment : Moment) : List Char :=
  moment.clock.charactersWith separator ++
    (match moment.offset with
    | some offset => offset.isoCharacters
    | none => [])

/-- The ISO text of a date. -/
def Date.isoText (date : Date) : String := String.ofList date.isoCharacters

/-- The ISO text of a time of day. -/
def TimeOfDay.isoText (time : TimeOfDay) : String := String.ofList time.isoCharacters

/-- The ISO text of a date-time. -/
def DateTime.isoText (dateTime : DateTime) : String :=
  String.ofList (dateTime.charactersWith 'T')

/-- The ISO text of a moment. -/
def Moment.isoText (moment : Moment) : String :=
  String.ofList (moment.charactersWith 'T')

/-- A part of a duration with its unit, or nothing if the part is zero. -/
def unitCharacters (amount : Nat) (unit : Char) : List Char :=
  if amount = 0 then [] else Nat.toDigits 10 amount ++ [unit]

/-- A fraction of a second after a point, without zeros at its end. -/
def shortFraction (micro : Nat) : List Char :=
  if micro = 0 then []
  else '.' :: ((fixedDigits 6 micro).reverse.dropWhile (· = '0')).reverse

/-- The seconds of a duration, with their fraction. -/
def secondCharacters (second micro : Nat) : List Char :=
  if second = 0 ∧ micro = 0 then []
  else Nat.toDigits 10 second ++ shortFraction micro ++ ['S']

/-- The ISO text of a duration. -/
def Duration.isoText (duration : Duration) : String :=
  let size := duration.micros.natAbs
  let days := size / 86400000000
  let seconds := size / 1000000 % 86400
  let micro := size % 1000000
  let dayPart := unitCharacters (days / 365) 'Y' ++ unitCharacters (days % 365) 'D'
  let timePart :=
    if seconds = 0 ∧ micro = 0 then []
    else
      'T' :: unitCharacters (seconds / 3600) 'H' ++ unitCharacters (seconds / 60 % 60) 'M' ++
        secondCharacters (seconds % 60) micro
  let body := if size = 0 then "T0S".toList else dayPart ++ timePart
  String.ofList ((if duration.micros < 0 then ['-'] else []) ++ 'P' :: body)

end SheetIntake.Calendar
