import SheetIntake.Row.Check
import SheetIntake.Row.Mapping
import SheetIntake.Schema.Registry
import SheetIntake.Sheet.Basic

/-!
# Review of sheets

Reviewing a sheet checks and maps every data row. A row with errors is mapped too. A sheet that
lacks required columns is not processed: it has one error, at its header.

A workbook review lists the names of its sheets, and keeps rows for each processed sheet and errors
for each sheet that has some.
-/

namespace SheetIntake

open Calendar

/-- What the review of one sheet gives. -/
structure SheetReview where
  name : String
  rows : List Row
  errors : List RowError
  processed : Bool

/-- What the review of all sheets of a workbook gives. -/
structure WorkbookReview where
  sheetNames : List String := []
  rows : List (String × List Row) := []
  errors : List (String × List RowError) := []

namespace SheetReview

/-- The error of a header that lacks columns. -/
def headerError (missing : List String) : RowError where
  row := headerRowNumber
  message := "Missing required columns: " ++ ", ".intercalate missing
  row_pos := by decide

/-- The errors and the mapped row of one data row. -/
def ofRow (site : Site) (header : List (Nat × String)) (schema : Schema) (now : DateTime)
    (row : SheetRow) : Except Failure (List RowError × Row) := do
  let named := Sheet.namedRow header row.cells
  let errors ← checkRow site named schema row.number now
  let mapped ← mapRow site named schema
  return (errors, mapped)

/-- The review of a sheet under a schema. -/
def ofSheet (site : Site) (sheet : Sheet) (schema : Schema) (now : DateTime) :
    Except Failure SheetReview :=
  let missing := Sheet.missingColumns sheet.header schema
  if missing ≠ [] then .ok ⟨sheet.name, [], [headerError missing], false⟩
  else do
    let reviewed ← sheet.rows.mapM (ofRow site sheet.header schema now)
    return ⟨sheet.name, reviewed.map Prod.snd, (reviewed.map Prod.fst).flatten, true⟩

end SheetReview

namespace WorkbookReview

/-- The number of all errors. -/
def errorCount (review : WorkbookReview) : Nat :=
  (review.errors.flatMap Prod.snd).length

/-- A review with the review of one more sheet. -/
def add (review : WorkbookReview) (sheet : SheetReview) : WorkbookReview where
  sheetNames := review.sheetNames ++ [sheet.name]
  rows := if sheet.processed then Assoc.put review.rows sheet.name sheet.rows else review.rows
  errors :=
    if sheet.errors ≠ [] then Assoc.put review.errors sheet.name sheet.errors else review.errors

/-- The review of sheets in order, each under the schema of its name. -/
def ofSheets (site : Site) (sheets : List Sheet) (registry : Registry) (now : DateTime) :
    Except Failure WorkbookReview :=
  sheets.foldlM (fun review sheet => do
    let next ← SheetReview.ofSheet site sheet (registry.resolve sheet.name) now
    return review.add next) {}

end WorkbookReview

end SheetIntake
