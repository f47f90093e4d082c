import SheetIntake.Calendar.StrictText
import SheetIntake.Calendar.UnixTime
import SheetIntake.Fault.Reading

/-!
# Drafts of records

A draft is what a row must be before it is stored: a name that is not empty, a number, a date and a
mark that says whether the record is verified. A row may have other fields, which do not matter. All
faults of a row are found together, in the order of the four fields.
-/

namespace SheetIntake

open Calendar

/-- Whether a record is verified. -/
inductive Verified where
  | yes
  | no
  deriving DecidableEq, Repr

/-- The word for whether a record is verified. -/
def Verified.text : Verified → String
  | yes => "Yes"
  | no => "No"

/-- The date of a draft: a moment, or a stamp, which may be no moment. -/
inductive DraftDate where
  | moment (moment : Moment)
  | stamp (moment : Option Moment)
  deriving DecidableEq

namespace DraftDate

/-- The moment of a date, if it is one. -/
def moment? : DraftDate → Option Moment
  | moment value => some value
  | stamp value => value

/-- A date as a value. -/
def toValue : DraftDate → Value
  | moment value => .moment value
  | stamp value => .stamp value

end DraftDate

/-- The content of a record before it is stored. -/
structure Draft where
  name : String
  amount : Float
  date : DraftDate
  verified : Verified

namespace Draft

open Checked

/-- A name, which is not empty. -/
def readName (value : Value) : Checked String :=
  match readText value with
  | .ok name => if name.isEmpty then .fault .stringTooShort else .ok name
  | .error faults => .error faults

/-- The moment that a text spells: a date and a time, a date alone, or a Unix time. -/
def momentOfText? (text : String) : Option Moment :=
  let characters := text.toList
  (StrictText.readMoment? characters).or <|
    ((StrictText.readDate? characters).map fun date => .naive (.atMidnight date)).or <|
      UnixTime.ofText? characters

/-- A moment, or the fault of a value that spells none. -/
def orUnparsed (moment : Option Moment) : Checked DraftDate :=
  match moment with
  | some moment => .ok (.moment moment)
  | none => .fault .dateTimeParsing

/-- The moment of an integer. One beyond sixty-four bits is taken for a float. -/
def momentOfInteger (value : Int) : Checked DraftDate :=
  if -largestInteger - 1 ≤ value ∧ value ≤ largestInteger then
    orUnparsed (UnixTime.ofNumber? value 0)
  else
    match Decimal.ofInteger? value with
    | some _ => .fault .dateTimeParsing
    | none => .fault .dateTimeType

/-- A date. Numbers are Unix times. -/
def readDate : Value → Checked DraftDate
  | .moment value => .ok (.moment value)
  | .stamp value => .ok (.stamp value)
  | .date value => .ok (.moment (.naive (.atMidnight value)))
  | .text value => orUnparsed (momentOfText? value)
  | .int value => momentOfInteger value
  | .float value => orUnparsed (UnixTime.ofFloat? value)
  | _ => .fault .dateTimeType

/-- Whether a record is verified. Nothing entered means that it is not. -/
def readVerified : Value → Checked Verified
  | .null => .ok .no
  | .text word =>
    if word = "" ∨ word = "No" then .ok .no
    else if word = "Yes" then .ok .yes
    else .fault .literalError
  | _ => .fault .literalError

/-- The draft of a row. -/
def read (row : Row) : Checked Draft :=
  let name := readRequired row "name" readName
  let amount := readRequired row "amount" readFloat
  let date := readRequired row "date" readDate
  let verified := readDefault row "verified" .no readVerified
  (((name.both amount).both date).both verified).map
    fun (((name, amount), date), verified) => ⟨name, amount, date, verified⟩

/-- A draft as a row. -/
def toRow (draft : Draft) : Row :=
  [("name", .text draft.name), ("amount", .float draft.amount), ("date", draft.date.toValue),
    ("verified", .text draft.verified.text)]

end Draft

end SheetIntake
