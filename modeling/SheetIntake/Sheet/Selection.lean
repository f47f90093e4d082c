import SheetIntake.Row.Error
import SheetIntake.Sheet.Basic

/-!
# Selection of rows

The rows of a sheet that can be imported have no recorded error and a key value. Errors name rows
by number; the row at index zero is the first data row.
-/

namespace SheetIntake

/-- A recorded error: an error of a row, or a value that stands for one. -/
inductive ErrorEntry where
  | described (error : RowError)
  | value (value : Value)

namespace ErrorEntry

/-- The row that an entry names; an entry of another shape names null. -/
def row : ErrorEntry → Value
  | described error => .int error.row
  | value (.record fields) => Row.field fields "row"
  | value _ => .null

end ErrorEntry

namespace Selection

/-- The rows named by errors. They have to be collectable. -/
def errorRows (errors : List ErrorEntry) : Except Failure (List Value) :=
  errors.mapM fun error =>
    if error.row.isCollectable then .ok error.row else .error .badType

/-- Whether the row at an index is free of errors and has a key value. -/
def isImportable (named : List Value) (keyField : String) (index : Nat) (row : Row) : Bool :=
  !(named.any fun value => value.equalsInteger (Int.ofNat (index + firstDataRowNumber))) &&
    (Row.field row keyField).isTruthy

/-- The importable rows among those from an index on. -/
def importableFrom (named : List Value) (keyField : String) : Nat → List Row → List Row
  | _, [] => []
  | index, row :: rest =>
    if isImportable named keyField index row then
      row :: importableFrom named keyField (index + 1) rest
    else importableFrom named keyField (index + 1) rest

/-- The importable rows of one sheet. -/
def ofSheet (rows : List Row) (errors : List ErrorEntry) (keyField : String) :
    Except Failure (List Row) := do
  let named ← errorRows errors
  return importableFrom named keyField 0 rows

/-- The rows of a sheet, with null standing for none. -/
abbrev SheetRows := List (String × Option (List Row))

/-- The recorded errors of sheets, with null standing for none. -/
abbrev SheetErrors := List (String × Option (List ErrorEntry))

/-- The errors recorded for a sheet. -/
def errorsOf (errors : SheetErrors) (sheet : String) : List ErrorEntry :=
  ((Assoc.get? errors sheet).getD none).getD []

/-- The importable rows of all sheets, in sheet order. -/
def ofSheets (data : SheetRows) (errors : SheetErrors) (keyField : String) :
    Except Failure (List Row) := do
  let selected ← data.mapM fun (sheet, rows) =>
    match rows with
    | none | some [] => pure []
    | some rows => ofSheet rows (errorsOf errors sheet) keyField
  return selected.flatten

end Selection

end SheetIntake
