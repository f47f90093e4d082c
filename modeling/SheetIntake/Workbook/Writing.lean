import SheetIntake.Sheet.Selection
import SheetIntake.Value.Display
import SheetIntake.Workbook.Grid
import SheetIntake.Workbook.Title

/-!
# Writing workbooks

One worksheet is written for each distinct name. Its header is the keys of the first row, and each
row gives its values under these keys; other keys are dropped. A sheet without rows says so in a
single cell. Before a value is stored it takes the form of a cell: nothing for what is empty,
a number of days for a duration, and a text for an infinity, a time, a list or a record.
-/

namespace SheetIntake.Workbook.Writing

open Calendar Decimal

/-- The name of the only sheet of a workbook without named sheets. -/
def soleSheetName : String := "Sheet1"

/-- The title that a new worksheet has before it is given its own. -/
def newTitle : String := "Sheet"

/-- What a sheet without rows says. -/
def placeholder : String := "No data"

/-- Whether a character may not stand in a cell: the control characters but tab, line feed and
carriage return. -/
def isIllegal (character : Char) : Bool :=
  character.toNat ≤ 8 || character.toNat = 11 || character.toNat = 12 ||
    (14 ≤ character.toNat && character.toNat ≤ 31)

/-- The form in which a value is put into a cell. -/
def cellForm : Value → Value
  | .float value =>
    match Exact.ofFloat value with
    | .notANumber => .null
    | .infinite negative => .text (if negative then "-inf" else "inf")
    | .finite _ _ _ => .float value
  | .time value => .text value.isoText
  | .duration value => .float (serialOfDuration value)
  | .list items => .text (Value.list items).sourceText
  | .record fields => .text (Value.record fields).sourceText
  | value => value

/-- Why a text cannot be put into a cell, if it cannot. Characters beyond the length of a cell do
not matter. -/
def textRefusal? (text : String) : Option Failure :=
  if (text.toList.take Grid.textLimit).any isIllegal then some .illegalCharacter else none

/-- Why a value cannot be put into a cell, if it cannot. -/
def refusal? (value : Value) : Option Failure :=
  match cellForm value with
  | .text text => textRefusal? text
  | .moment moment | .stamp (some moment) => if moment.offset.isSome then some .badValue else none
  | _ => none

/-- The header of rows: the keys of the first. -/
def headerOf (rows : List Row) : List String :=
  match rows with
  | [] => []
  | first :: _ => Assoc.keys first

/-- The values of rows under their header, below the header itself. -/
def table (rows : List Row) : List (List Value) :=
  let header := headerOf rows
  if header.isEmpty then []
  else header.map .text :: rows.map fun row => header.map row.field

/-- The values of a table in the order in which they are written: the header, then column by
column. -/
def writingOrder (rows : List Row) : List Value :=
  let header := headerOf rows
  header.map .text ++ header.flatMap fun key => rows.map fun row => row.field key

/-- The cells of a sheet, before they are stored. -/
def cells (rows : Option (List Row)) : Except Failure (List (List Value)) :=
  match rows with
  | none | some [] => .ok [[.text placeholder]]
  | some rows =>
    match (writingOrder rows).findSome? refusal? with
    | some failure => .error failure
    | none => .ok ((table rows).map fun values => values.map cellForm)

/-- One row written over another. -/
def overlayRow (below above : List Value) : List Value :=
  above ++ below.drop above.length

/-- Rows written over others from the top. -/
def overlay : List (List Value) → List (List Value) → List (List Value)
  | below, [] => below
  | [], above => above
  | first :: below, second :: above => overlayRow first second :: overlay below above

/-- The title under which a new worksheet is kept. A title other than the one it starts with is made
different from all titles, that one included. -/
def titleFor (titles : List String) (name : String) : Except Failure String := do
  let start := Title.unused titles newTitle
  let checked ← Title.check name
  return if checked = start then start else Title.unused (titles ++ [start]) checked

/-- Writes a sheet: over the worksheet that has its name for a title, or else as a new one. -/
def writeSheet (data : Selection.SheetRows) (written : List Grid) (name : String) :
    Except Failure (List Grid) := do
  let rows := (Assoc.get? data name).join
  if written.any (·.title = name) then
    let cells ← cells rows
    return written.map fun grid =>
      if grid.title = name then ⟨name, overlay grid.rows cells⟩ else grid
  else
    let title ← titleFor (written.map Grid.title) name
    return written ++ [⟨title, ← cells rows⟩]

/-- The worksheets of the named sheets, as they are stored. -/
def write (data : Selection.SheetRows) (names : List String) : Except Failure (List Grid) := do
  let distinct := Assoc.distinct names
  let named := if distinct.isEmpty then [soleSheetName] else distinct
  let written ← named.foldlM (writeSheet data) []
  written.mapM Grid.stored

/-- A worksheet with all rows as wide as the widest. -/
def padded (grid : Grid) : Grid :=
  let width := (grid.rows.map List.length).foldl max 0
  { grid with rows := grid.rows.map fun values =>
      values ++ List.replicate (width - values.length) .null }

end SheetIntake.Workbook.Writing
