import SheetIntake.Schema.Registry
import SheetIntake.Service.Answer
import SheetIntake.Service.Request

/-!
# Imports

The importable rows of each sheet are one batch. Batches are stored in the order of the sheets. The
first sheet whose rows cannot be selected or stored ends the import; what was stored before it
stays.
-/

namespace SheetIntake.Service

open Selection

/-- What a finished import says. -/
structure ImportSummary where
  imported : Nat
  deriving DecidableEq, Repr

namespace ImportSummary

/-- What is said about a finished import. -/
def message (summary : ImportSummary) : String :=
  "Successfully imported " ++ toString summary.imported ++ " records."

/-- What a finished import sends to the client. -/
def body (summary : ImportSummary) : Row :=
  [("message", .text summary.message), ("imported", .int summary.imported)]

end ImportSummary

/-- The batch of a sheet: its importable rows. -/
def sheetBatch (registry : Registry) (errors : SheetErrors) (sheet : String)
    (rows : Option (List Row)) : Except Failure (List Row) :=
  match rows with
  | none | some [] => .ok []
  | some rows => ofSheet rows (errorsOf errors sheet) (registry.resolve sheet).keyField

/-- Selects and stores the rows of one sheet. The outcome is how many were stored. -/
def importSheet (registry : Registry) (errors : SheetErrors) (store : Store) (sheet : String)
    (rows : Option (List Row)) : Except Failure Nat × Store :=
  match sheetBatch registry errors sheet rows with
  | .error failure => (.error failure, store)
  | .ok batch =>
    let (outcome, next) := store.insertBatch batch
    (outcome.mapError .batch, next)

/-- Imports sheets one after the other until one fails. -/
def importSheets (registry : Registry) (errors : SheetErrors) (store : Store) (imported : Nat) :
    SheetRows → Except Failure Nat × Store
  | [] => (.ok imported, store)
  | (sheet, rows) :: rest =>
    match importSheet registry errors store sheet rows with
    | (.error failure, next) => (.error failure, next)
    | (.ok count, next) => importSheets registry errors next (imported + count) rest

/-- The answer to a request to import, and the store after it. -/
def importRows (request : ImportRequest) (registry : Registry) (store : Store) :
    Answer ImportSummary × Store :=
  match request.rows with
  | none => (.error (.badRequest "No data provided for import."), store)
  | some rows =>
    let (outcome, next) := importSheets registry (request.errors.getD []) store 0 rows
    ((outcome.map ImportSummary.mk).mapError fun _ => .serverError "Error importing data.", next)

end SheetIntake.Service
