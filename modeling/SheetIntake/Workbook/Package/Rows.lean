import SheetIntake.Workbook.CellText
import SheetIntake.Workbook.Package.Strings
import SheetIntake.Workbook.Package.Styles
import SheetIntake.Workbook.Reference
import SheetIntake.Workbook.Serial
import SheetIntake.Workbook.Worksheet

/-!
# Rows of a stored worksheet

A row says its number or follows the row before it; so does a cell with its column. The type of a
cell says how its text is read: as a number, a place in the table of strings, a truth value, a date,
or as it is. The first row or cell that makes no sense ends the reading, but rows outside the bounds
of the worksheet end it before that, and without failure.
-/

namespace SheetIntake.Workbook

open Decimal Markup

/-- What the cells of a worksheet refer to. -/
structure CellContext where
  strings : Strings
  styles : Styles
  epoch : Epoch

namespace Rows

/-- What a number under the style of a cell stands for. Without a style it is that of the first. -/
def readStyle (context : CellContext) (cell : Element) : Except Failure NumberMeaning :=
  match cell.attribute? "s" with
  | none => .ok (context.styles.meaningAt 0)
  | some "" => .ok .number
  | some text => (CellText.readInteger text).map context.styles.meaningAt

/-- The column of a cell, or the one after the cell before it. -/
def readColumn (before : Nat) (cell : Element) : Except Failure Nat :=
  match cell.attribute? "r" with
  | none | some "" => .ok (before + 1)
  | some reference =>
    (CellText.orBadValue (CellReference.read? reference)).map CellReference.column

/-- The value of the text of a cell, by the type of the cell. -/
def readTyped (context : CellContext) (meaning : NumberMeaning) (type text : String) :
    Except Failure Value :=
  if type = "n" then (CellText.readNumber text).map (meaning.apply context.epoch)
  else if type = "s" then do
    match context.strings.at? (← CellText.readInteger text) with
    | some shared => return .text shared
    | none => .error .noSuchPlace
  else if type = "b" then (CellText.readInteger text).map fun number => .bool (number != 0)
  else if type = "d" then CellText.readIso text
  else .ok (.text text)

/-- The value of a cell, with null for a blank one. A cell that holds its own text may hold the
empty text. -/
def readValue (context : CellContext) (meaning : NumberMeaning) (cell : Element) :
    Except Failure Value :=
  let type := (cell.attribute? "t").getD "n"
  if type = "inlineStr" then
    match cell.child? (sheetName "is") with
    | some item => (readItem item).map .text
    | none => .ok .null
  else
    let text := ((cell.child? (sheetName "v")).map Element.text).getD ""
    if text.isEmpty then .ok .null else readTyped context meaning type text

/-- The cells of a row with their columns, counted from one, after a column. -/
def readCells (context : CellContext) : Nat → List Element → Except Failure (List (Nat × Value))
  | _, [] => .ok []
  | before, cell :: rest => do
    let meaning ← readStyle context cell
    let column ← readColumn before cell
    let value ← readValue context meaning cell
    let cells ← readCells context column rest
    return (column, value) :: cells

/-- The number of a row, or the one after the row before it. It may be written as a float without a
fraction. -/
def readRowNumber (before : Int) (row : Element) : Except Failure Int :=
  match row.attribute? "r" with
  | none => .ok (before + 1)
  | some text =>
    CellText.orBadValue ((readInteger? text).or ((readGroupedFloat? text).bind integer?))

/-- The cells that are kept of a row, with columns counted from zero: those that are not blank and
lie within the width of the worksheet. The last cell of a column counts. Without a known width a row
is as wide as its last cell is far. -/
def keptCells (bounds : Bounds) (cells : List (Nat × Value)) : List (Nat × Value) :=
  let width := bounds.lastColumn.getD ((cells.getLast?.map Prod.fst).getD 0)
  let kept := (Assoc.ofPairs cells).filterMap fun (column, value) =>
    match value with
    | .null => none
    | value => if 1 ≤ column ∧ column ≤ width then some (column - 1, value) else none
  kept.mergeSort fun left right => left.1 ≤ right.1

/-- Whether a row lies after the last row of a worksheet. -/
def isBeyond (bounds : Bounds) (number : Int) : Bool :=
  match bounds.lastRow with
  | some last => (last : Int) < number
  | none => false

/-- The rows after a row, and whether all rows were read. -/
def readRows (context : CellContext) (bounds : Bounds) :
    Int → List Element → Except Failure (List SheetRow × Bool)
  | _, [] => .ok ([], true)
  | before, row :: rest => do
    let number ← readRowNumber before row
    let cells ← readCells context 0 row.children
    if isBeyond bounds number then return ([], false)
    else
      let (rows, complete) ← readRows context bounds number rest
      return (⟨number, keptCells bounds cells⟩ :: rows, complete)

/-- The rows of a worksheet document. A document that is not well formed is a failure once all rows
before the defect are read. -/
def read (context : CellContext) (bounds : Bounds) (document : Scan) :
    Except Failure (List SheetRow) := do
  let elements := document.ended.filter fun element => element.name = sheetName "row"
  let (rows, complete) ← readRows context bounds 0 elements
  if complete && !document.wellFormed then .error .malformedMarkup else return rows

/-- The bounds that a worksheet document gives before its rows. -/
def readBounds (document : Scan) : Except OpeningFailure Bounds :=
  let isDimension (element : Element) : Bool := element.name = sheetName "dimension"
  let isData (element : Element) : Bool := element.name = sheetName "sheetData"
  match document.ended.find? fun element => isDimension element || isData element with
  | some element =>
    if isDimension element then
      match element.attribute? "ref" with
      | some range =>
        if !hasShape element ["ref"] [] then .error (.other .badType)
        else
          match Bounds.read? range with
          | some bounds => .ok bounds
          | none => .error Stage.worksheets.failure
      | none => .error (.other .badType)
    else .ok {}
  | none => if document.wellFormed then .ok {} else .error (.other .malformedMarkup)

end Rows

end SheetIntake.Workbook
