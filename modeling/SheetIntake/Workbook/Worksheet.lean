import SheetIntake.Sheet.Basic
import SheetIntake.Value.Display

/-!
# Worksheets

A worksheet has a title and numbered rows of values, in ascending order of their numbers. A
worksheet becomes a sheet by taking its first row for the header. The cells of the header are
shown as texts; data rows without anything in them are left out.
-/

namespace SheetIntake.Workbook

/-- Whether row numbers ascend. -/
def Ascending (rows : List SheetRow) : Prop :=
  rows.Pairwise fun earlier later => earlier.number < later.number

/-- A title and rows of values in ascending order. -/
structure Worksheet where
  title : String
  rows : List SheetRow
  ascending : Ascending rows

namespace Worksheet

/-- The rows whose numbers are at least `next` and greater than those of all rows kept before
them. -/
def ascendingFrom (next : Int) : List SheetRow → List SheetRow
  | [] => []
  | row :: rest =>
    if next ≤ row.number then row :: ascendingFrom (row.number + 1) rest
    else ascendingFrom next rest

/-- The rows that are kept have numbers from the first one asked for. -/
theorem le_number_of_mem_ascendingFrom {next : Int} {rows : List SheetRow} {row : SheetRow}
    (kept : row ∈ ascendingFrom next rows) : next ≤ row.number := by
  induction rows generalizing next with
  | nil => cases kept
  | cons first rest inductionHypothesis =>
    unfold ascendingFrom at kept
    split at kept
    · next first_ge =>
      rcases List.mem_cons.mp kept with rfl | later
      · exact first_ge
      · have := inductionHypothesis later
        omega
    · exact inductionHypothesis kept

/-- The rows that are kept ascend. -/
theorem ascending_ascendingFrom (next : Int) (rows : List SheetRow) :
    Ascending (ascendingFrom next rows) := by
  induction rows generalizing next with
  | nil => exact .nil
  | cons first rest inductionHypothesis =>
    unfold ascendingFrom
    split
    · refine .cons (fun later kept => ?_) (inductionHypothesis _)
      have := le_number_of_mem_ascendingFrom kept
      omega
    · exact inductionHypothesis _

/-- The worksheet of rows, leaving out rows that come after a row with the same or a greater
number. -/
def ofRows (title : String) (rows : List SheetRow) : Worksheet :=
  ⟨title, ascendingFrom headerRowNumber rows, ascending_ascendingFrom _ _⟩

/-- The cells of the first row. -/
def headerCells (worksheet : Worksheet) : List (Nat × Value) :=
  match worksheet.rows.find? fun row => row.number == (headerRowNumber : Int) with
  | some row => row.cells
  | none => []

/-- The header: the texts of the cells of the first row that are not blank. -/
def header (worksheet : Worksheet) : List (Nat × String) :=
  worksheet.headerCells.filterMap fun (column, value) =>
    if value.isBlankCell then none else some (column, value.plainText)

/-- Whether a row has a cell that is not blank. -/
def holdsData (row : SheetRow) : Bool :=
  row.cells.any fun entry => !entry.2.isBlankCell

/-- The rows after the first that have something in them. -/
def dataRows (worksheet : Worksheet) : List SheetRow :=
  worksheet.rows.filter fun row => (headerRowNumber : Int) < row.number && holdsData row

/-- A worksheet as a sheet with a header. -/
def toSheet (worksheet : Worksheet) : Sheet :=
  ⟨worksheet.title, worksheet.header, worksheet.dataRows⟩

end Worksheet

end SheetIntake.Workbook
