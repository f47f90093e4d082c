import SheetIntake.Calendar.DateTime
import SheetIntake.Decimal.Fixed

/-!
# Delimited dates

Month, day and year of four digits, or month and year, with one delimiter character between each
two. The month comes first unless it cannot be one; then the day does. Years before 1000 are left
to other readers.
-/

namespace SheetIntake.Calendar.DateText

open SheetIntake.Decimal

/-- The characters that may stand between the parts of a delimited date. -/
def isDelimiter (character : Char) : Bool :=
  character = ' ' || character = '.' || character = '/' || character = '-' || character = '\\'

/-- What a delimited reader says of a text. -/
inductive Delimited where
  | date (date : Date)
  | impossible
  | otherShape
  deriving DecidableEq

/-- One or two digits and a delimiter in front of the rest. -/
def takePart? (characters : List Char) : Option (Nat × Char × List Char) := do
  let (value, rest) ← readOneOrTwo? characters
  match rest with
  | [] => none
  | mark :: after => if isDelimiter mark then some (value, mark, after) else none

/-- A year of four digits that ends the text, from 1000 on. -/
def readYear? (characters : List Char) : Option Nat :=
  match readDigits? 4 characters with
  | some (year, []) => if 1000 ≤ year then some year else none
  | _ => none

/-- The date named by two numbers and a year. -/
def dateOfParts (first second year : Nat) : Delimited :=
  let date :=
    if 1 ≤ first ∧ first ≤ 12 then Date.of? year first second
    else if first ≤ 31 ∧ 1 ≤ second ∧ second ≤ 12 then Date.of? year second first
    else none
  match date with
  | some date => .date date
  | none => .impossible

/-- The first day of a month. -/
def dateOfMonth (month year : Nat) : Delimited :=
  match Date.of? year month 1 with
  | some date => .date date
  | none => .impossible

/-- Whether two digits begin the text. -/
def hasTwoDigits (characters : List Char) : Bool :=
  (readDigits? 2 characters).isSome

/-- Reads a delimited date. A month and a year need two digits for the month, and no point between
them, because that would be a decimal number. -/
def readDelimited (characters : List Char) : Delimited :=
  match takePart? characters with
  | none => .otherShape
  | some (first, mark, afterFirst) =>
    match takePart? afterFirst with
    | some (second, _, afterSecond) =>
      match readYear? afterSecond with
      | some year => dateOfParts first second year
      | none => .otherShape
    | none =>
      if hasTwoDigits characters && mark != '.' then
        match readYear? afterFirst with
        | some year => dateOfMonth first year
        | none => .otherShape
      else .otherShape

end SheetIntake.Calendar.DateText
