import SheetIntake.Fault.Reading
import SheetIntake.Sheet.Selection

/-!
# Requests

A request to import names rows by sheet and the errors recorded for them; a request to export names
rows by sheet and the sheets to write. Each part may be missing or null. Some parts have a second
name, which counts when the first is not there. Parts with other names do not matter.
-/

namespace SheetIntake.Service

open Checked Selection

/-- A row of fields. -/
def readRow : Value → Checked Row
  | .record fields => .ok fields
  | _ => .fault .dictType

/-- Rows by sheet, with null for a sheet without rows. -/
def readSheetRows : Value → Checked SheetRows :=
  readEntries (readOptional (readList readRow))

/-- Recorded errors by sheet, each a record. -/
def readSheetErrors (value : Value) : Checked SheetErrors :=
  (readSheetRows value).map fun entries =>
    entries.map fun (sheet, rows) =>
      (sheet, rows.map fun rows => rows.map fun row => .value (.record row))

/-- A part that may be missing or null, under the first of its names that is there. -/
def readPart {α : Type} (fields : Row) (names : List String) (read : Value → Checked α) :
    Checked (Option α) :=
  match names.find? fun name => Assoc.contains fields name with
  | some name => readDefault fields name none (readOptional read)
  | none => .ok none

/-- The names of rows by sheet. -/
def sheetDataNames : List String := ["sheetData", "sheet_data"]

/-- A request to import rows. -/
structure ImportRequest where
  data : Option SheetRows
  sheetData : Option SheetRows
  errors : Option SheetErrors

namespace ImportRequest

/-- The request of its parts. -/
def read : Value → Checked ImportRequest
  | .record fields =>
    let data := readPart fields ["data"] readSheetRows
    let sheetData := readPart fields sheetDataNames readSheetRows
    let errors := readPart fields ["errors"] readSheetErrors
    ((data.both sheetData).both errors).map fun ((data, sheetData), errors) =>
      ⟨data, sheetData, errors⟩
  | _ => .fault .modelAttributesType

/-- The rows to import. -/
def rows (request : ImportRequest) : Option SheetRows :=
  request.data.or request.sheetData

end ImportRequest

/-- A request to export rows. -/
structure ExportRequest where
  sheetData : Option SheetRows
  sheetNames : Option (List String)

/-- The request of its parts. -/
def ExportRequest.read : Value → Checked ExportRequest
  | .record fields =>
    let data := readPart fields sheetDataNames readSheetRows
    let names := readPart fields ["sheetNames", "sheet_names"] (readList readText)
    (data.both names).map fun (data, names) => ⟨data, names⟩
  | _ => .fault .modelAttributesType

end SheetIntake.Service
