import SheetIntake.Decimal.Text
import SheetIntake.Row.Error
import SheetIntake.Schema.Basic
import SheetIntake.Value.Reading

/-!
# Checking rows

A row is checked column by column in the order of the rules. An empty value is wrong only where a
value is required. Any other value has to be of the rule's kind, to meet the conditions of that
kind, and to be one of the allowed values if there is such a list; it can fail in both respects.
-/

namespace SheetIntake

open Calendar Decimal

/-- A limit in a message: a whole number with all its digits, any other number as short as
possible. -/
def limitText (limit : Float) : String :=
  match integer? limit with
  | some whole => toString whole
  | none => exactStyle.text limit

/-- What is wrong with a value that should be a text. -/
def textComplaint? : Value → Option String
  | .text _ => none
  | _ => some "must be a string."

/-- What is wrong with a value that should be a number not below a limit. -/
def numberComplaint? (least : Option Float) : Option Float → Option String
  | none => some "must be numeric."
  | some number =>
    match least with
    | some limit =>
      if number < limit then some ("must be greater than " ++ limitText limit ++ ".") else none
    | none => none

/-- What is wrong with a value that should be a date, perhaps of the current month. -/
def dateComplaint? (currentMonth : Bool) (now : DateTime) : Option DateTime → Option String
  | none => some "must be a valid date."
  | some clock =>
    if currentMonth ∧ (clock.date.month, clock.date.year) ≠ (now.date.month, now.date.year) then
      some "must be within the current month."
    else none

/-- What is wrong with a value as a value of a kind. -/
def RuleKind.complaint? (site : Site) (kind : RuleKind) (value : Value) (now : DateTime) :
    Except Failure (Option String) :=
  match kind with
  | .text => .ok (textComplaint? value)
  | .number least => value.readNumber.map (numberComplaint? least)
  | .date currentMonth => (value.readDate site).map (dateComplaint? currentMonth now)

/-- Whether a value is one of the allowed texts. -/
def isAllowed (allowed : List String) : Value → Bool
  | .text value => allowed.contains value
  | _ => false

/-- What is wrong with a value that is not one of the allowed texts. -/
def allowedComplaint? (allowed : Option (List String)) (value : Value) : Option String :=
  match allowed with
  | none => none
  | some texts =>
    if isAllowed texts value then none
    else some ("must be one of " ++ ", ".intercalate texts ++ ".")

/-- Everything that is wrong with a value under a rule. -/
def Rule.complaints (site : Site) (rule : Rule) (value : Value) (now : DateTime) :
    Except Failure (List String) :=
  if value.isEmpty then .ok (if rule.required then ["is required."] else [])
  else do
    let complaint ← rule.kind.complaint? site value now
    return complaint.toList ++ (allowedComplaint? rule.allowed value).toList

/-- The text of a complaint about a column of a row. -/
def complaintText (row : Int) (column complaint : String) : String :=
  "Row " ++ toString row ++ ": \"" ++ column ++ "\" " ++ complaint

/-- The errors of one column of a row. -/
def checkColumn (site : Site) (row : Row) (number : Int) (now : DateTime) (column : String)
    (rule : Rule) : Except Failure (List RowError) := do
  let complaints ← rule.complaints site (row.field column) now
  complaints.mapM fun complaint => RowError.report number (complaintText number column complaint)

/-- All errors of a row, in the order of the rules. -/
def checkRow (site : Site) (row : Row) (schema : Schema) (number : Int) (now : DateTime) :
    Except Failure (List RowError) := do
  let errors ← schema.rules.mapM fun entry => checkColumn site row number now entry.1 entry.2
  return errors.flatten

end SheetIntake
