import SheetIntake.Calendar.StrictText
import SheetIntake.Decimal.Fixed
import SheetIntake.Failure
import SheetIntake.Value

/-!
# Texts of stored cells

A stored cell holds its number, date or truth value as text. A number with a point or an exponent
is a float, any other an integer. A date, a time or both are written in ISO form with at most
milliseconds; what follows them is passed over. A duration is written as hours, minutes and seconds
after `PT`.
-/

namespace SheetIntake.Workbook.CellText

open Calendar Decimal Text

/-- The value of a text, or the failure of a text without meaning. -/
def orBadValue {α : Type} (value : Option α) : Except Failure α :=
  match value with
  | some value => .ok value
  | none => .error .badValue

/-- The number of a cell. -/
def readNumber (text : String) : Except Failure Value :=
  if text.toList.any fun character => character = '.' || character = 'e' || character = 'E' then
    (orBadValue (readGroupedFloat? text)).map .float
  else (orBadValue (readInteger? text)).map .int

/-- The integer of a cell. -/
def readInteger (text : String) : Except Failure Int :=
  orBadValue (readInteger? text)

/-- Digits of any script at the front, exactly as many as asked for. -/
def takeExactly? : Nat → List Char → Option (List Nat × List Char)
  | 0, characters => some ([], characters)
  | _ + 1, [] => none
  | count + 1, character :: rest => do
    let digit ← digitValue? character
    let (digits, after) ← takeExactly? count rest
    return (digit :: digits, after)

/-- A number of exactly as many digits as asked for, at the front. -/
def takeField? (width : Nat) (characters : List Char) : Option (Nat × List Char) :=
  (takeExactly? width characters).map fun (digits, rest) => (valueOfDigits digits, rest)

/-- The year, month and day at the front of a text. -/
def takeDateFields? (characters : List Char) : Option ((Nat × Nat × Nat) × List Char) := do
  let (year, afterYear) ← takeField? 4 characters
  let (month, afterMonth) ← takeField? 2 (← StrictText.skip? '-' afterYear)
  let (day, rest) ← takeField? 2 (← StrictText.skip? '-' afterMonth)
  return ((year, month, day), rest)

/-- The microseconds of up to three digits after a point, at the front of a text. They are the whole
part of a product of floats. -/
def takeMilliseconds (characters : List Char) : Nat × List Char :=
  match characters with
  | '.' :: rest =>
    let digits := ((takeDigits digitValue? rest).1).take 3
    if digits.isEmpty then (0, characters)
    else
      let part := Float.ofScientific (valueOfDigits digits) true digits.length
      (((floor? (part * 1000000.0)).getD 0).toNat, rest.drop digits.length)
  | _ => (0, characters)

/-- The seconds and microseconds at the front of a text, after a colon. -/
def takeSeconds? (characters : List Char) : Option (Nat × Nat) := do
  let (second, rest) ← takeField? 2 (← StrictText.skip? ':' characters)
  return (second, (takeMilliseconds rest).1)

/-- The hours, minutes, seconds and microseconds at the front of a text. -/
def takeClockFields? (characters : List Char) : Option (Nat × Nat × Nat × Nat) := do
  let (hour, afterHour) ← takeField? 2 characters
  let (minute, afterMinute) ← takeField? 2 (← StrictText.skip? ':' afterHour)
  let (second, micro) := (takeSeconds? afterMinute).getD (0, 0)
  return (hour, minute, second, micro)

/-- One letter at the front is passed over. -/
def skipLetter (letter : Char) (characters : List Char) : List Char :=
  (StrictText.skip? letter characters).getD characters

/-- A date, a time or both at the front of a text. Nothing is given when neither is there. -/
def readClock? (characters : List Char) : Option (Except Failure Value) :=
  let date := takeDateFields? characters
  let afterDate := (date.map Prod.snd).getD characters
  match date.map Prod.fst, takeClockFields? (skipLetter 'T' afterDate) with
  | none, none => none
  | some (year, month, day), none => some ((orBadValue (Date.of? year month day)).map .date)
  | none, some (hour, minute, second, micro) =>
    some ((orBadValue (TimeOfDay.of? hour minute second micro)).map .time)
  | some (year, month, day), some (hour, minute, second, micro) =>
    some ((orBadValue (DateTime.of? year month day hour minute second micro)).map .dateTime)

/-- Digits at the front, followed by a letter. -/
def takeUnit? (letter : Char) (characters : List Char) : Option (Nat × List Char) := do
  let (digits, rest) := takeDigits digitValue? characters
  if digits.isEmpty then none
  else
    let after ← StrictText.skip? letter rest
    return (valueOfDigits digits, after)

/-- Seconds at the front, with up to three digits after a point, in microseconds. -/
def takeSecondUnit? (characters : List Char) : Option Int := do
  let (digits, afterWhole) := takeDigits digitValue? characters
  if digits.isEmpty then none
  else
    let places :=
      match afterWhole with
      | '.' :: rest => ((takeDigits digitValue? rest).1).take 3
      | _ => []
    let after := if places.isEmpty then afterWhole else afterWhole.drop (places.length + 1)
    let _ ← StrictText.skip? 'S' after
    let seconds := nearestFloat (valueOfDigits (digits ++ places)) (-Int.ofNat places.length)
    let whole ← floor? seconds
    let micros ←
      match Exact.ofFloat (fraction seconds * 1000000.0) with
      | .finite _ mantissa exponent => some (Quotient.ofBinary mantissa exponent).round
      | .infinite _ | .notANumber => none
    return whole * 1000000 + Int.ofNat micros

/-- The nearest whole number of units that a float can hold, in microseconds. -/
def unitMicros? (amount : Nat) (micros : Int) : Option Int :=
  (integer? (nearestFloat amount 0)).map (· * micros)

/-- The greatest number of microseconds in a duration. -/
def longest : Int := 86399999999999999999

/-- A duration at the front of a text. Nothing is given when no part of it is there. -/
def readDuration? (characters : List Char) : Option (Except Failure Value) := do
  let afterMark ← StrictText.skip? 'T' (← StrictText.skip? 'P' characters)
  let hours := takeUnit? 'H' afterMark
  let afterHours := (hours.map Prod.snd).getD afterMark
  let minutes := takeUnit? 'M' afterHours
  let afterMinutes := (minutes.map Prod.snd).getD afterHours
  let seconds := takeSecondUnit? afterMinutes
  if hours.isNone && minutes.isNone && seconds.isNone then none
  else
    let total := do
      let hourMicros ← unitMicros? ((hours.map Prod.fst).getD 0) 3600000000
      let minuteMicros ← unitMicros? ((minutes.map Prod.fst).getD 0) 60000000
      return hourMicros + minuteMicros + seconds.getD 0
    match total with
    | some micros =>
      if micros ≤ longest then some (.ok (.duration ⟨micros⟩)) else some (.error .overflow)
    | none => some (.error .overflow)

/-- The date, time or duration of a cell. -/
def readIso (text : String) : Except Failure Value :=
  let characters := text.toList
  ((readClock? characters).or (readDuration? characters)).getD (.error .badValue)

end SheetIntake.Workbook.CellText
