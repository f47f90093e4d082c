import SheetIntake.Service.Answer
import SheetIntake.Sheet.Review
import SheetIntake.Value.Wire
import SheetIntake.Workbook.File

/-!
# Uploads

An uploaded file is read and each of its sheets reviewed. A file that is longer than the limit is
not read at all. The answer lists the sheets, their mapped rows and their errors; in wire form the
three lists are named.
-/

namespace SheetIntake.Service

open Calendar Workbook

/-- The refusal of an upload that fails. Only a file that is no workbook is the client's fault. -/
def refusalOfUpload : ReadFailure → Refusal
  | .unreadable message => .badRequest message
  | .unforeseen _ => .serverError "Error processing file."

/-- The review of all sheets of an opened workbook. -/
def reviewOpened (site : Site) (opened : Opened) (registry : Registry) (now : DateTime) :
    Except ReadFailure WorkbookReview := do
  (WorkbookReview.ofSheets site (← opened.sheets) registry now).mapError .unforeseen

/-- The answer to bytes that are uploaded, from their number and what comes of opening them. -/
def uploadOpened (site : Site) (size : Nat) (opened : Opened) (registry : Registry) (limit : Int)
    (now : DateTime) : Answer WorkbookReview :=
  if limit < size then .error (.tooLarge limit)
  else (reviewOpened site opened registry now).mapError refusalOfUpload

/-- The answer to an uploaded file. -/
def upload (site : Site) (file : Option File) (registry : Registry) (limit : Int)
    (now : DateTime) : Answer WorkbookReview :=
  match file with
  | none => .error (.badRequest "No file uploaded.")
  | some file => uploadOpened site file.size file.opened registry limit now

end SheetIntake.Service

namespace SheetIntake

/-- An error as a record. -/
def RowError.toValue (error : RowError) : Value :=
  .record [("row", .int error.row), ("error", .text error.message)]

namespace WorkbookReview

/-- The names of the sheets, in wire form. -/
def wireNames (review : WorkbookReview) : Value :=
  .list (review.sheetNames.map .text)

/-- The rows of the sheets, in wire form. -/
def wireRows (review : WorkbookReview) : Value :=
  .record (review.rows.map fun entry =>
    (entry.1, .list (entry.2.map fun row => (Value.record row).toWire)))

/-- The errors of the sheets, in wire form. -/
def wireErrors (review : WorkbookReview) : Value :=
  .record (review.errors.map fun entry => (entry.1, .list (entry.2.map RowError.toValue)))

/-- A review in wire form. -/
def toWire (review : WorkbookReview) : Value :=
  .record [("sheetNames", review.wireNames), ("sheetData", review.wireRows),
    ("validationErrors", review.wireErrors)]

end WorkbookReview

end SheetIntake
