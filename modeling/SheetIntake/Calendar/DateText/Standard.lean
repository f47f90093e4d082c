import SheetIntake.Calendar.DateTime
import SheetIntake.Decimal.Fixed
import SheetIntake.Decimal.Numeral

/-!
# Standard date texts

The year comes first, with four digits. Month and day follow with one common separator, or in two
digits each with none; the time follows after `T` or a space, with or without colons; an offset
may end the text. Parts may be left out from the right. The year may be zero, which names no day,
and a fraction may be finer than a time of day: a caller has to look at both.
-/

namespace SheetIntake.Calendar.DateText

open SheetIntake.Decimal SheetIntake.Text

/-- The fields of a standard date text. -/
structure Fields where
  year : Nat
  month : Nat := 1
  day : Nat := 1
  hour : Nat := 0
  minute : Nat := 0
  second : Nat := 0
  micro : Nat := 0
  /-- The digits of the fraction after the sixth. -/
  finer : List Nat := []
  offset : Option Offset := none
  deriving DecidableEq

/-- The blanks that are passed over before and after an offset. -/
def isGap (character : Char) : Bool :=
  character = ' ' || (0x9 ≤ character.toNat && character.toNat ≤ 0xd)

/-- The separators between year, month and day. -/
def isDateSeparator (character : Char) : Bool :=
  character = '-' || character = '.' || character = '/' || character = '\\' || character = ' '

/-- Whether a text begins with an ASCII digit. -/
def startsWithDigit (characters : List Char) : Bool :=
  characters.head?.any fun character => (asciiDigitValue? character).isSome

/-- A field of two digits. A single digit is enough in a text with separators. -/
def takeField? (separated : Bool) (characters : List Char) : Option (Nat × List Char) :=
  if separated then readOneOrTwo? characters else readDigits? 2 characters

/-- The microseconds of the first six digits in front, and the digits after them. -/
def takeMicros (characters : List Char) : Nat × List Nat × List Char :=
  let (digits, rest) := takeDigits asciiDigitValue? characters
  (valueOfDigits (digits ++ List.replicate 6 0 |>.take 6), digits.drop 6, rest)

/-- The minutes of an offset after its hours: nothing, or one or two digits, perhaps after a
colon. -/
def takeOffsetMinutes? : List Char → Option (Nat × List Char)
  | [] => some (0, [])
  | ':' :: rest => readOneOrTwo? rest
  | characters => readOneOrTwo? characters

/-- Offset and blanks that end a text. -/
def readOffset? (characters : List Char) : Option (Option Offset) := do
  let (offset, rest) ←
    match characters.dropWhile isGap with
    | [] => some (none, [])
    | mark :: rest =>
      if mark = 'Z' then some (some Offset.utc, rest)
      else if mark = '+' ∨ mark = '-' then do
        let (hours, afterHours) ← readOneOrTwo? rest
        let (minutes, after) ← takeOffsetMinutes? afterHours
        let size := Int.ofNat (hours * 60 + minutes)
        if hours < 24 ∧ minutes < 60 then
          let offset ← Offset.of? (if mark = '-' then -size else size)
          some (some offset, after)
        else none
      else some (none, mark :: rest)
  if (rest.dropWhile isGap).isEmpty then some offset else none

/-- The end of a text after its time of day. -/
def finish? (fields : Fields) (characters : List Char) : Option Fields :=
  (readOffset? characters).map fun offset => { fields with offset := offset }

/-- Seconds, their fraction and the end of a text. -/
def readSeconds? (separated : Bool) (fields : Fields) (characters : List Char) :
    Option Fields := do
  let (second, rest) ← takeField? separated characters
  if 60 ≤ second then none
  else
    match rest with
    | '.' :: fraction =>
      let (micro, finer, after) := takeMicros fraction
      finish? { fields with second := second, micro := micro, finer := finer } after
    | _ => finish? { fields with second := second } rest

/-- Minutes and what follows them. -/
def readMinutes? (separated : Bool) (fields : Fields) (characters : List Char) :
    Option Fields := do
  let (minute, rest) ← takeField? separated characters
  let fields := { fields with minute := minute }
  if 60 ≤ minute then none
  else if separated then
    match rest with
    | ':' :: seconds =>
      if startsWithDigit seconds then readSeconds? true fields seconds else none
    | _ => finish? fields rest
  else if startsWithDigit rest then readSeconds? false fields rest
  else finish? fields rest

/-- Hours and what follows them. Hours of one digit need minutes after a colon, or compact
minutes. -/
def readHours? (fields : Fields) (characters : List Char) : Option Fields := do
  let (hour, rest) ← readOneOrTwo? characters
  let twoDigits := rest.length + 2 = characters.length
  let fields := { fields with hour := hour }
  if 24 ≤ hour then none
  else
    match rest with
    | ':' :: minutes =>
      if startsWithDigit minutes then readMinutes? true fields minutes else none
    | _ =>
      if startsWithDigit rest then readMinutes? false fields rest
      else if twoDigits then finish? fields rest
      else none

/-- The time of day after a date, or nothing. -/
def readTime? (fields : Fields) : List Char → Option Fields
  | [] => some fields
  | [_] => none
  | mark :: rest => if mark = 'T' ∨ mark = ' ' then readHours? fields rest else none

/-- Whether a day exists, in the year zero too, which is a leap year. -/
def dayExists (year month day : Nat) : Bool :=
  1 ≤ day && day ≤ daysInMonth year month

/-- The day, and what follows it. -/
def readDay? (separated : Bool) (fields : Fields) (characters : List Char) : Option Fields := do
  let (day, rest) ← takeField? separated characters
  if dayExists fields.year fields.month day then readTime? { fields with day := day } rest
  else none

/-- The month after a separator, and what follows it. -/
def readSeparatedMonth? (separator : Char) (fields : Fields) (characters : List Char) :
    Option Fields := do
  let (month, rest) ← takeField? true characters
  let fields := { fields with month := month }
  if month < 1 ∨ 12 < month then none
  else
    match rest with
    | [] => some fields
    | mark :: day => if mark = separator then readDay? true fields day else none

/-- A standard date text. -/
def readFields? (characters : List Char) : Option Fields := do
  let (year, rest) ← readDigits? 4 characters
  let fields : Fields := { year := year }
  match rest with
  | [] => some fields
  | mark :: afterMark =>
    if isDateSeparator mark then readSeparatedMonth? mark fields afterMark
    else
      let (month, day) ← takeField? false rest
      if month < 1 ∨ 12 < month then none else readDay? false { fields with month := month } day

end SheetIntake.Calendar.DateText
