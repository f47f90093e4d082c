import SheetIntake.Assoc
import SheetIntake.Calendar.DateTime
import SheetIntake.Calendar.Duration
import SheetIntake.Decimal.Numeral

/-!
# Cell values

A cell of a worksheet, a field of a row and a part of a request hold values of one type. A `stamp`
is a moment that may be no moment at all. Records keep the order of their fields.

Two notions of absence differ: a value is *empty* when nothing was entered, and *truthy* when it
is neither absent nor zero, false or without content.
-/

namespace SheetIntake

open Calendar Decimal

/-- A value of a cell, a field or a request. -/
inductive Value where
  | null
  | bool (value : Bool)
  | int (value : Int)
  | float (value : Float)
  | text (value : String)
  | moment (value : Moment)
  | stamp (value : Option Moment)
  | date (value : Date)
  | time (value : TimeOfDay)
  | duration (value : Duration)
  | list (items : List Value)
  | record (fields : List (String × Value))
  deriving Inhabited

/-- Named values in order: a row of a sheet, or the fields of a request. -/
abbrev Row := List (String × Value)

namespace Value

/-- The value of a naive date-time. -/
def dateTime (clock : DateTime) : Value := .moment (.naive clock)

/-- Nothing was entered: null, the empty text, or a float that is not a number. -/
def isEmpty : Value → Bool
  | null => true
  | text value => value.isEmpty
  | float value => isNotANumber value
  | _ => false

/-- Null or the empty text, which is how a worksheet shows a blank cell. -/
def isBlankCell : Value → Bool
  | null => true
  | text value => value.isEmpty
  | _ => false

/-- Whether a value counts as given: it is not null, false, zero or without content. -/
def isTruthy : Value → Bool
  | null => false
  | bool value => value
  | int value => value != 0
  | float value => !isZero value
  | text value => !value.isEmpty
  | duration value => value.micros != 0
  | list items => !items.isEmpty
  | record fields => !fields.isEmpty
  | moment _ | stamp _ | date _ | time _ => true

/-- Whether a value is a number equal to an integer; true counts as one and false as zero. -/
def equalsInteger (value : Value) (number : Int) : Bool :=
  match value with
  | int held => held == number
  | float held => integer? held == some number
  | bool held => (if held then 1 else 0) == number
  | _ => false

/-- Whether a value can be collected in a set: lists and records cannot. -/
def isCollectable : Value → Bool
  | list _ | record _ => false
  | _ => true

end Value

namespace Row

/-- The value of a field; a field that is not there is null. -/
def field (row : Row) (name : String) : Value :=
  (Assoc.get? row name).getD .null

end Row

end SheetIntake
