import SheetIntake.Decimal.Numeral
import SheetIntake.Text.Case

/-!
# Cell references

A column is named by one to three letters, `A` to `ZZZ`, in either case; a row by its number. A
cell reference joins the two. The bounds of a sheet are written as a range of such references, each
part of which may be left out and may carry a dollar sign.
-/

namespace SheetIntake.Workbook

open Decimal Text

/-- The value of a letter as a digit of a column name. -/
def letterValue? (character : Char) : Option Nat :=
  if 'A' ≤ character ∧ character ≤ 'Z' then some (character.toNat - 'A'.toNat + 1) else none

/-- The greatest number of letters in the name of a column. -/
def columnNameLimit : Nat := 3

/-- The number of a named column, counted from one. -/
def columnNumber? (letters : List Char) : Option Nat := do
  let name := letters.flatMap upperForm
  if name.isEmpty || columnNameLimit < name.length then none
  else
    let digits ← name.mapM letterValue?
    return digits.foldl (fun total digit => 26 * total + digit) 0

/-- The place of a cell: its row and its column, both counted from one. -/
structure CellReference where
  row : Int
  column : Nat
  deriving DecidableEq, Repr

/-- The part of a reference before its first digit and the part from there on. Without a digit the
last character stands in its place. -/
def splitReference (characters : List Char) : List Char × List Char :=
  let letters := characters.takeWhile fun character => !character.isDigit
  if letters.length < characters.length then (letters, characters.drop letters.length)
  else (characters.dropLast, characters.drop (characters.length - 1))

/-- The place that a reference names. -/
def CellReference.read? (reference : String) : Option CellReference := do
  let (letters, digits) := splitReference reference.toList
  let row ← readInteger? (String.ofList digits)
  let column ← columnNumber? letters
  return ⟨row, column⟩

/-- The last column and row of a sheet, as far as they are known. -/
structure Bounds where
  lastColumn : Option Nat := none
  lastRow : Option Nat := none
  deriving DecidableEq, Repr

namespace Bounds

/-- One corner of a range as it is written: letters and digits, each perhaps missing. -/
structure Corner where
  letters : List Char
  digits : List Nat

/-- A dollar sign at the front is passed over. -/
def skipDollar : List Char → List Char
  | '$' :: rest => rest
  | characters => characters

/-- A corner at the front. At most three letters belong to it. -/
def takeCorner (characters : List Char) : Corner × List Char :=
  let afterDollar := skipDollar characters
  let letters := (afterDollar.takeWhile Char.isAlpha).take columnNameLimit
  let beforeRow := afterDollar.drop letters.length
  let (digits, rest) := takeDigits digitValue? (skipDollar beforeRow)
  (⟨letters, digits⟩, rest)

/-- Whether two corners make a range: both are cells, both are columns or both are rows. -/
def matches? (first second : Corner) : Bool :=
  let columns := [first.letters.isEmpty, second.letters.isEmpty]
  let rows := [first.digits.isEmpty, second.digits.isEmpty]
  let absent := fun parts : List Bool => parts.all id
  let present := fun parts : List Bool => parts.all (!·)
  (present columns && present rows) || (present columns && absent rows) ||
    (present rows && absent columns)

/-- The bounds that a corner sets. -/
def ofCorner? (corner : Corner) : Option Bounds := do
  let column ← if corner.letters.isEmpty then some none else (columnNumber? corner.letters).map some
  let row := if corner.digits.isEmpty then none else some (valueOfDigits corner.digits)
  return ⟨column, row⟩

/-- The bounds of a range: those of its last corner, and of its first where the last sets none. -/
def read? (range : String) : Option Bounds := do
  let (first, rest) := takeCorner range.toList
  let start ← ofCorner? first
  match rest with
  | [] | ['\n'] => return start
  | ':' :: after =>
    let (second, final) := takeCorner after
    if (final.isEmpty || final = ['\n']) && matches? first second then
      let stop ← ofCorner? second
      return ⟨stop.lastColumn.or start.lastColumn, stop.lastRow.or start.lastRow⟩
    else none
  | _ => none

end Bounds

end SheetIntake.Workbook
