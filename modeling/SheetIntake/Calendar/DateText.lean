import SheetIntake.Calendar.DateText.Delimited
import SheetIntake.Calendar.DateText.Fraction
import SheetIntake.Calendar.DateText.Phrase
import SheetIntake.Calendar.DateText.Standard

/-!
# Dates written as text

The ways in which a cell may spell a date, tried in a fixed order: a word for the present, the
standard form with the year first, then dates with delimiters, a bare year or quarter, and at last
a phrase. Short plain numbers are no dates, and a time of day alone names none.
-/

namespace SheetIntake.Calendar

open SheetIntake.Text SheetIntake.Decimal

/-- What a text says as a date. The standard form admits the year zero, which no calendar date
has. -/
inductive DateReading where
  | notADate
  | yearZero
  | moment (moment : Moment)
  deriving DecidableEq

namespace DateText

/-- What the fields of a standard date text name. Nanoseconds cannot be counted in the year
zero. -/
def Fields.reading (fields : Fields) : DateReading :=
  if fields.year = 0 then if fields.finer = [] then .yearZero else .notADate
  else
    match DateTime.of? fields.year fields.month fields.day fields.hour fields.minute fields.second
      fields.micro with
    | some clock =>
      if clock.IsCountable fields.finer then .moment ⟨clock, fields.offset⟩ else .notADate
    | none => .notADate

/-- Whether a text is a plain number that is too small to be a year. A text that begins with a zero
never counts as one. -/
def isSmallNumber (characters : List Char) : Bool :=
  characters.head? != some '0' &&
    match takeSign characters with
    | (negative, unsigned) =>
      match readUnsigned? asciiDigitValue? unsigned with
      | some (coefficient, exponent) =>
        let value := nearestFloat coefficient exponent
        negative || value < 1000.0
      | none => false

/-- Whether a text begins with a clock's hours and minutes. -/
def startsWithTime (characters : List Char) : Bool :=
  match readOneOrTwo? characters with
  | some (hour, ':' :: rest) =>
    match readDigits? 2 rest with
    | some (minute, _) => hour < 24 && minute < 60
    | none => false
  | _ => false

/-- A digit of any script followed by the rest. -/
def digitsValue? (characters : List Char) : Option Nat :=
  match takeDigits digitValue? characters with
  | ([], _) => none
  | (digits, []) => some (valueOfDigits digits)
  | _ => none

/-- The digits of quarter and year in a text such as `2Q2024` or `2024-Q2`, in that order. -/
def quarterParts? (characters : List Char) : Option (List Char × List Char) :=
  let isQ (character : Char) := character = 'Q' ∨ character = 'q'
  match characters with
  | [quarter, mark, first, second] =>
    if isQ mark then some ([quarter], ['2', '0', first, second])
    else if isQ first then some ([second], ['2', '0', quarter, mark])
    else none
  | [first, second, third, fourth, fifth] =>
    if isQ second ∧ third = '-' then some ([first], ['2', '0', fourth, fifth])
    else if isQ fourth ∧ third = '-' then some ([fifth], ['2', '0', first, second])
    else none
  | [first, second, third, fourth, fifth, sixth] =>
    if isQ second then some ([first], [third, fourth, fifth, sixth])
    else if isQ fifth then some ([sixth], [first, second, third, fourth])
    else none
  | [first, second, third, fourth, fifth, sixth, seventh] =>
    if isQ second ∧ third = '-' then some ([first], [fourth, fifth, sixth, seventh])
    else if isQ sixth ∧ fifth = '-' then some ([seventh], [first, second, third, fourth])
    else none
  | _ => none

/-- The first day of a quarter of a year. -/
def readQuarter? (characters : List Char) : Option DateReading := do
  let (quarterDigits, yearDigits) ← quarterParts? characters
  let quarter ← digitsValue? quarterDigits
  let year ← digitsValue? yearDigits
  if quarter < 1 ∨ 4 < quarter then return .notADate
  else
    let date ← Date.of? year ((quarter - 1) * 3 + 1) 1
    return .moment (.naive (.atMidnight date))

/-- A year in four characters. -/
def readBareYear? (characters : List Char) : Option DateReading := do
  if characters.length ≠ 4 then none
  else
    let value ← readInteger? (String.ofList characters)
    let date ← Date.of? value.toNat 1 1
    return .moment (.naive (.atMidnight date))

/-- A date phrase as a reading. -/
def readingOfPhrase (complete : Bool) (characters : List Char) : DateReading :=
  match readPhrase? complete characters with
  | some moment =>
    if moment.clock.IsCountable (finerDigits characters) then .moment moment else .notADate
  | none => .notADate

/-- Reads a text in any form but the standard one. -/
def readOther (characters : List Char) : DateReading :=
  if isSmallNumber characters then .notADate
  else if startsWithTime characters then readingOfPhrase true characters
  else
    match readDelimited characters with
    | .date date => .moment (.naive (.atMidnight date))
    | .impossible => .notADate
    | .otherShape =>
      match readBareYear? characters with
      | some reading => reading
      | none =>
        match readQuarter? characters with
        | some reading => reading
        | none => readingOfPhrase false characters

/-- The words that stand for the present. -/
def presentWords : List (List Char) := ["now".toList, "today".toList]

/-- Reads a text without blanks at its ends. -/
def read (present : DateTime) (characters : List Char) : DateReading :=
  match characters with
  | [] => .notADate
  | _ =>
    if characters ∈ presentWords then .moment (.naive present)
    else
      match readFields? characters with
      | some fields => fields.reading
      | none => readOther characters

end DateText

/-- What a text says as a date when the clock shows `present`, blanks around it aside. -/
def readDateText (present : DateTime) (text : String) : DateReading :=
  DateText.read present (strip isBlank text.toList)

end SheetIntake.Calendar
