import SheetIntake.Calendar.DateTime
import SheetIntake.Decimal.Exact
import SheetIntake.Decimal.Numeral

/-!
# Unix times

A number stands for a moment by the seconds passed since the start of 1970 in universal time, or
by the milliseconds when its size is above twenty thousand million. Moments from 1600 to 9999 can
be given this way.
-/

namespace SheetIntake.Calendar.UnixTime

open SheetIntake.Decimal SheetIntake.Text

/-- Above this size a number counts milliseconds. -/
def secondsLimit : Nat := 20000000000

/-- The seconds from the start of 1970 to the start of 1600. -/
def earliest : Int := -11676096000

/-- The seconds from the start of 1970 to the last second of 9999. -/
def latest : Int := 253402300799

/-- The moment a number of whole seconds and microseconds after the start of 1970. -/
def ofSeconds? (seconds : Int) (micro : Nat) : Option Moment :=
  if earliest ≤ seconds ∧ seconds ≤ latest then
    (DateTime.ofMicros? (epochMicros + seconds * 1000000 + Int.ofNat micro)).map fun clock =>
      ⟨clock, some .utc⟩
  else none

/-- The moment of a number of seconds or milliseconds with extra microseconds. -/
def ofNumber? (number : Int) (micro : Nat) : Option Moment :=
  if number.natAbs ≤ secondsLimit then
    ofSeconds? (number + Int.ofNat (micro / 1000000)) (micro % 1000000)
  else
    let total := number.fmod 1000 * 1000 + Int.ofNat micro
    ofSeconds? (number.fdiv 1000 + total.fdiv 1000000) (total.fmod 1000000).toNat

/-- The moment of a float. Its fraction is added to its floor as the nearest whole number of
microseconds, a half going up. -/
def ofFloat? (number : Float) : Option Moment := do
  let whole ← floor? number
  match Exact.ofFloat (fraction number * 1000000.0) with
  | .finite _ mantissa exponent =>
    ofNumber? whole (Quotient.ofBinary mantissa exponent).roundHalfUp
  | .infinite _ | .notANumber => none

/-- The greatest number of whole seconds that is read from a text. -/
def integerLimit : Nat := 9223372036854775807

/-- The digits at the front as a number, if it is within the limit at every digit. -/
def takeInteger? (total : Nat) : List Char → Option (Nat × List Char)
  | [] => some (total, [])
  | character :: rest =>
    match asciiDigitValue? character with
    | some digit =>
      if 10 * total + digit ≤ integerLimit then takeInteger? (10 * total + digit) rest else none
    | none => some (total, character :: rest)

/-- Digits after the point, each added to the number before it in turn. -/
def addFraction? (total unit : Float) : List Char → Option Float
  | [] => some total
  | character :: rest =>
    match asciiDigitValue? character with
    | some digit => addFraction? (total + Float.ofNat digit / unit) (unit * 10.0) rest
    | none => none

/-- The moment of a text that is a number: an optional sign, digits, and perhaps a point and more
digits. -/
def ofText? (characters : List Char) : Option Moment := do
  let (negative, unsigned) := takeSign characters
  if (unsigned.head?.bind asciiDigitValue?).isNone then none
  else
    let (size, rest) ← takeInteger? 0 unsigned
    match rest with
    | [] => ofNumber? (if negative then -Int.ofNat size else Int.ofNat size) 0
    | '.' :: places =>
      let total ← addFraction? (Float.ofNat size) 10.0 places
      ofFloat? (if negative then -total else total)
    | _ => none

end SheetIntake.Calendar.UnixTime
