import SheetIntake.Service.Answer
import SheetIntake.Service.Request
import SheetIntake.Workbook.Writing

/-!
# Exports

The rows of the named sheets are written as a workbook. A request without rows or without names is
refused, and so is one whose rows cannot be written.
-/

namespace SheetIntake.Service

open Workbook

/-- The answer to a request to export: the written worksheets. -/
def exportRows (request : ExportRequest) : Answer (List Grid) :=
  match request.sheetData, request.sheetNames with
  | some data, some names =>
    (Writing.write data names).mapError fun _ => .serverError "Error exporting data."
  | _, _ => .error (.badRequest "No data provided for export.")

end SheetIntake.Service
