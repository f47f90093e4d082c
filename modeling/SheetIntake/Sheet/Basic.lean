import SheetIntake.Schema.Basic
import SheetIntake.Value

/-!
# Sheets

A sheet has a header, which gives columns their names, and numbered rows of cells. Columns are
counted from zero and rows from one; the header is row one and the data rows follow it.
-/

namespace SheetIntake

/-- The row number of the header. -/
def headerRowNumber : Nat := 1

/-- The row number of the first data row. -/
def firstDataRowNumber : Nat := headerRowNumber + 1

/-- A data row: its number, and the cells that are there, by column. -/
structure SheetRow where
  number : Int
  cells : List (Nat × Value)

/-- A sheet with its header, by column, and its data rows. -/
structure Sheet where
  name : String
  header : List (Nat × String)
  rows : List SheetRow

namespace Sheet

/-- The required columns that no header names, in mapping order. -/
def missingColumns (header : List (Nat × String)) (schema : Schema) : List String :=
  schema.requiredColumns.filter fun column => !(Assoc.values header).contains column

/-- The cells of a row under the header of their columns. Cells without a header are left out, and
of several columns with one header the last cell counts. -/
def namedRow (header : List (Nat × String)) (cells : List (Nat × Value)) : Row :=
  Assoc.ofPairs (cells.filterMap fun (column, value) =>
    (Assoc.get? header column).map fun name => (name, value))

end Sheet

end SheetIntake
