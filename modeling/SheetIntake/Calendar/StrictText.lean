import SheetIntake.Calendar.DateTime
import SheetIntake.Calendar.Duration
import SheetIntake.Decimal.Fixed
import SheetIntake.Decimal.Power

/-!
# Strict date texts

The narrow ISO form of stored records: a date of exactly ten characters, or a date and a time
joined by `T`, `t`, a space or an underscore. Seconds and their fraction may be left out; digits
of the fraction after the sixth are dropped. An offset, if there is one, ends the text.
-/

namespace SheetIntake.Calendar.StrictText

open SheetIntake.Decimal

/-- One given character at the front. -/
def skip? (expected : Char) : List Char → Option (List Char)
  | [] => none
  | character :: rest => if character = expected then some rest else none

/-- A date at the front: four, two and two digits joined by hyphens. -/
def takeDate? (characters : List Char) : Option (Date × List Char) := do
  let (year, afterYear) ← readDigits? 4 characters
  let beforeMonth ← skip? '-' afterYear
  let (month, afterMonth) ← readDigits? 2 beforeMonth
  let beforeDay ← skip? '-' afterMonth
  let (day, rest) ← readDigits? 2 beforeDay
  let date ← Date.of? year month day
  return (date, rest)

/-- The digits of a fraction in front, with the microseconds of the first six. -/
def takeFraction (characters : List Char) : Nat × List Char :=
  let digits := characters.takeWhile Char.isDigit
  let kept := digits.take 6
  let micro := kept.foldl (fun total digit => 10 * total + (digit.toNat - '0'.toNat)) 0
  (micro * power 10 (6 - kept.length), characters.dropWhile Char.isDigit)

/-- Seconds at the front, with a fraction after a point or comma. A point with no digit after it
is refused. -/
def takeSeconds? (characters : List Char) : Option (Nat × Nat × List Char) := do
  let (second, rest) ← readDigits? 2 characters
  match rest with
  | [] => return (second, 0, [])
  | mark :: fraction =>
    if mark = '.' ∨ mark = ',' then
      if (fraction.head?.any Char.isDigit) then
        let (micro, after) := takeFraction fraction
        return (second, micro, after)
      else none
    else return (second, 0, rest)

/-- A time of day at the front. -/
def takeTime? (characters : List Char) : Option (TimeOfDay × List Char) := do
  let (hour, afterHour) ← readDigits? 2 characters
  let beforeMinute ← skip? ':' afterHour
  let (minute, afterMinute) ← readDigits? 2 beforeMinute
  match afterMinute with
  | ':' :: beforeSecond =>
    let (second, micro, rest) ← takeSeconds? beforeSecond
    let time ← TimeOfDay.of? hour minute second micro
    return (time, rest)
  | rest =>
    let time ← TimeOfDay.of? hour minute 0 0
    return (time, rest)

/-- The hours and minutes of an offset that fill the rest of a text. -/
def readOffsetSize? (characters : List Char) : Option Int := do
  let (hours, afterHours) ← readDigits? 2 characters
  let beforeMinutes :=
    match afterHours with
    | ':' :: rest => rest
    | rest => rest
  let (minutes, rest) ← readDigits? 2 beforeMinutes
  if rest.isEmpty ∧ minutes < 60 then some (Int.ofNat (hours * 60 + minutes)) else none

/-- The minus sign of typography, U+2212. -/
def minusSign : Char := Char.ofNat 0x2212

/-- An offset that fills the rest of a text; nothing is no offset. -/
def readOffset? : List Char → Option (Option Offset)
  | [] => some none
  | [mark] => if mark = 'Z' ∨ mark = 'z' then some (some .utc) else none
  | sign :: rest => do
    let size ← readOffsetSize? rest
    let minutes ←
      if sign = '+' then some size
      else if sign = '-' ∨ sign = minusSign then some (-size)
      else none
    let offset ← Offset.of? minutes
    return some offset

/-- The character between a date and a time. -/
def isSeparator (character : Char) : Bool :=
  character = 'T' || character = 't' || character = ' ' || character = '_'

/-- A date and a time that fill a text. -/
def readMoment? (characters : List Char) : Option Moment := do
  let (date, afterDate) ← takeDate? characters
  match afterDate with
  | [] => none
  | separator :: beforeTime =>
    if isSeparator separator then
      let (time, afterTime) ← takeTime? beforeTime
      let offset ← readOffset? afterTime
      return ⟨⟨date, time⟩, offset⟩
    else none

/-- A date that fills a text. -/
def readDate? (characters : List Char) : Option Date :=
  match takeDate? characters with
  | some (date, []) => some date
  | _ => none

/-- A time of day that fills a text. -/
def readTime? (characters : List Char) : Option TimeOfDay :=
  match takeTime? characters with
  | some (time, []) => some time
  | _ => none

end SheetIntake.Calendar.StrictText
