import SheetIntake.Decimal.Text
import SheetIntake.Text.Blank
import SheetIntake.Workbook.CellText
import SheetIntake.Workbook.Serial
import SheetIntake.Workbook.Worksheet

/-!
# Grids of cells

A grid is a worksheet that holds values in rows from the top and columns from the left. Storing a
value in a cell changes some values: numbers keep sixteen digits, dates become date-times, times are
exact to the millisecond, and texts are cut to the length of a cell. A text that begins with an
equals sign is a formula. A formula has no value when it is read back, because nothing has computed
it.
-/

namespace SheetIntake.Workbook

open Calendar Decimal Text

/-- A title and rows of values. -/
structure Grid where
  title : String
  rows : List (List Value)

namespace Grid

/-- The greatest number of characters in a cell. -/
def textLimit : Nat := 32767

/-- A text as a cell holds it. -/
def storeText (text : String) : String :=
  String.ofList (unifyLines (text.toList.take textLimit))

/-- Whether a text in a cell is a formula. -/
def isFormula (text : String) : Bool :=
  match text.toList with
  | '=' :: _ :: _ => true
  | _ => false

/-- A number as a cell holds it. An infinity or no number leaves the cell blank. -/
def storeFloat (value : Float) : Except Failure Value :=
  if isFinite value then CellText.readNumber (cellStyle.text value) else .ok .null

/-- A serial number as a cell under a date format holds it. -/
def storeSerial (meaning : NumberMeaning) (serial : Float) : Except Failure Value :=
  (storeFloat serial).map (meaning.apply .year1900)

/-- A date-time as a cell holds it. An offset cannot be held. -/
def storeMoment (moment : Moment) : Except Failure Value :=
  match moment.offset with
  | some _ => .error .badType
  | none => storeSerial .date (serialOfDateTime moment.clock)

/-- A value as a cell holds it, with null for a blank cell. -/
def store : Value → Except Failure Value
  | .null => .ok .null
  | .bool value => .ok (.bool value)
  | .int value =>
    match ofInteger? value with
    | some nearest => storeFloat nearest
    | none => .error .overflow
  | .float value => storeFloat value
  | .text value => .ok (if value.isEmpty then .null else .text (storeText value))
  | .moment value => storeMoment value
  | .stamp (some value) => storeMoment value
  | .stamp none => .ok .null
  | .date value => storeSerial .date (serialOfDateTime (.atMidnight value))
  | .time value => storeSerial .date (serialOfTime value)
  | .duration value => storeSerial .duration (serialOfDuration value)
  | .list _ | .record _ => .error .badValue

/-- What is read back from a cell. -/
def readBack : Value → Value
  | .text value => if isFormula value then .null else .text value
  | value => value

/-- The cells that are not blank, each with its column. -/
def cellsOf (values : List Value) : List (Nat × Value) :=
  values.zipIdx.filterMap fun (value, column) =>
    match readBack value with
    | .null => none
    | kept => some (column, kept)

/-- A grid as it is read back. -/
def toWorksheet (grid : Grid) : Worksheet :=
  .ofRows grid.title (grid.rows.zipIdx.map fun (values, index) =>
    ⟨Int.ofNat index + 1, cellsOf values⟩)

/-- A grid with each value as a cell holds it. -/
def stored (grid : Grid) : Except Failure Grid := do
  let rows ← grid.rows.mapM fun values => values.mapM store
  return ⟨grid.title, rows⟩

end Grid

end SheetIntake.Workbook
