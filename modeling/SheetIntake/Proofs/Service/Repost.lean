import SheetIntake.Proofs.Checked
import SheetIntake.Proofs.Service.ImportRun
import SheetIntake.Proofs.Sheet.Review
import SheetIntake.Proofs.Sheet.Selection
import SheetIntake.Service.Upload

/-!
# Reviews that are sent back

A client that has a review can ask for the import of its rows. The rows and the errors of the review
become the data and the errors of a request, with dates as they are or in wire form; or the review
is sent back as a whole, under the names that it came with. Both are requests that can be read.
`batches_with_errors` says which rows a request with data and errors hands to the store: those of
each sheet that the errors do not list. `batches_without_errors` says it of a review as a whole.
-/

namespace SheetIntake

/-- Whether rows are sent back as they are or in wire form. -/
inductive PostedForm where
  | plain
  | wire
  deriving DecidableEq, Repr

/-- A row as it is sent back. -/
def PostedForm.row : PostedForm → Row → Row
  | plain, row => row
  | wire, row => Value.fieldsToWire row

/-- An error as it is recorded in a request. -/
def RowError.recorded (error : RowError) : ErrorEntry := .value error.toValue

namespace WorkbookReview

/-- The rows of the sheets, not in wire form. -/
def plainRows (review : WorkbookReview) : Value :=
  .record (review.rows.map fun entry => (entry.1, .list (entry.2.map Value.record)))

/-- The rows of the sheets as they are sent back. -/
def rowsIn (review : WorkbookReview) : PostedForm → Value
  | .plain => review.plainRows
  | .wire => review.wireRows

/-- The rows and the errors of a review as the data and the errors of a request. -/
def posted (review : WorkbookReview) (form : PostedForm) : Value :=
  .record [("data", review.rowsIn form), ("errors", review.wireErrors)]

/-- The rows of a review as the rows of a request. -/
def sheetRows (review : WorkbookReview) (form : PostedForm) : Selection.SheetRows :=
  review.rows.map fun entry => (entry.1, some (entry.2.map form.row))

/-- The errors of a review as the errors of a request. -/
def sheetErrors (review : WorkbookReview) : Selection.SheetErrors :=
  review.errors.map fun entry => (entry.1, some (entry.2.map RowError.recorded))

end WorkbookReview

namespace Service

open Calendar Checked Selection Workbook

/-- A review that answers an upload is the review of the sheets of the file. -/
theorem reviewed_of_upload {site : Site} {file : Option File} {registry : Registry} {limit : Int}
    {now : DateTime} {review : WorkbookReview}
    (uploaded : upload site file registry limit now = .ok review) :
    ∃ sheets, (∃ content ∈ file, content.sheets = .ok sheets) ∧
      WorkbookReview.ofSheets site sheets registry now = .ok review := by
  unfold upload at uploaded
  split at uploaded
  · cases uploaded
  · next content =>
    unfold uploadOpened at uploaded
    split at uploaded
    · cases uploaded
    · obtain ⟨sheets, read, made⟩ :=
        Outcome.bind_eq_ok_iff.mp (Outcome.mapError_eq_ok_iff.mp uploaded)
      exact ⟨sheets, ⟨content, rfl, read⟩, Outcome.mapError_eq_ok_iff.mp made⟩

/-- What is read and is not null is read as a part that may be null. -/
theorem readOptional_of_ne {α : Type} {read : Value → Checked α} {given : Value} {value : α}
    (present : given ≠ .null) (passes : read given = .ok value) :
    readOptional read given = .ok (some value) := by
  rw [readOptional, passes]
  · rfl
  · exact present

/-- A record that is read is read as a part that may be null. -/
theorem readOptional_record {α : Type} {read : Value → Checked α} {fields : Row} {value : α}
    (passes : read (.record fields) = .ok value) :
    readOptional read (.record fields) = .ok (some value) :=
  readOptional_of_ne Value.noConfusion passes

/-- Records of sheets are read as rows of sheets. -/
theorem readSheetRows_map {α : Type} (fields : α → Row) (sheets : List (String × List α)) :
    readSheetRows (.record (sheets.map fun entry =>
        (entry.1, .list (entry.2.map fun item => .record (fields item))))) =
      .ok (sheets.map fun entry => (entry.1, some (entry.2.map fields))) := by
  have readOne : ∀ items : List α,
      readOptional (readList readRow) (.list (items.map fun item => .record (fields item))) =
        .ok (some (items.map fields)) := by
    intro items
    have rowRead : ∀ item, readRow (.record (fields item)) = .ok (fields item) := fun _ => rfl
    exact readOptional_of_ne Value.noConfusion (readList_map rowRead items)
  exact readEntries_map readOne sheets

theorem readSheetRows_rowsIn (review : WorkbookReview) (form : PostedForm) :
    readSheetRows (review.rowsIn form) = .ok (review.sheetRows form) := by
  cases form with
  | plain => exact readSheetRows_map (fun row => row) review.rows
  | wire =>
    have shape : review.wireRows = .record (review.rows.map fun entry =>
        (entry.1, .list (entry.2.map fun row => .record (Value.fieldsToWire row)))) := by
      simp only [WorkbookReview.wireRows, Value.toWire]
    rw [WorkbookReview.rowsIn, shape]
    exact readSheetRows_map Value.fieldsToWire review.rows

theorem readSheetErrors_wireErrors (review : WorkbookReview) :
    readSheetErrors review.wireErrors = .ok review.sheetErrors := by
  have read := readSheetRows_map
    (fun error : RowError => [("row", Value.int error.row), ("error", .text error.message)])
    review.errors
  rw [readSheetErrors, WorkbookReview.wireErrors]
  unfold RowError.toValue
  rw [read, Except.map, WorkbookReview.sheetErrors, List.map_map]
  simp only [Function.comp_def, Option.map_some, List.map_map]
  rfl

/-- A part that is there under the first of its names is read. -/
theorem readPart_of_some {α : Type} {fields : Row} {name : String} {value : Value}
    (there : Assoc.get? fields name = some value) (others : List String)
    (read : Value → Checked α) :
    readPart fields (name :: others) read = (readOptional read value).under (.name name) := by
  have first : (name :: others).find? (fun name => Assoc.contains fields name) = some name :=
    List.find?_cons_of_pos (by rw [Assoc.contains, there]; rfl)
  rw [readPart, first]
  dsimp only
  rw [readDefault, there]

/-- A part that is under none of its names is missing. -/
theorem readPart_of_none {α : Type} {fields : Row} {names : List String}
    (missing : ∀ name ∈ names, name ∉ Assoc.keys fields) (read : Value → Checked α) :
    readPart fields names read = .ok none := by
  have nowhere : names.find? (fun name => Assoc.contains fields name) = none := by
    rw [List.find?_eq_none]
    intro name present
    rw [Assoc.contains, (Assoc.get?_eq_none_iff fields name).mpr (missing name present)]
    exact Bool.false_ne_true
  rw [readPart, nowhere]

/-- The rows and the errors of a review are a request to import. -/
theorem read_posted (review : WorkbookReview) (form : PostedForm) :
    ImportRequest.read (review.posted form) =
      .ok ⟨some (review.sheetRows form), none, some review.sheetErrors⟩ := by
  have rowsRead : readOptional readSheetRows (review.rowsIn form) =
      .ok (some (review.sheetRows form)) := by
    have read := readSheetRows_rowsIn review form
    cases form <;> exact readOptional_record read
  have errorsRead : readOptional readSheetErrors review.wireErrors =
      .ok (some review.sheetErrors) := readOptional_record (readSheetErrors_wireErrors review)
  have noOther : ∀ name ∈ sheetDataNames, name ∉ ["data", "errors"] := by decide
  rw [WorkbookReview.posted, ImportRequest.read, readPart_of_some rfl, rowsRead, under_ok,
    readPart_of_none noOther, readPart_of_some rfl, errorsRead, under_ok]
  rfl

/-- A review as a whole is a request to import too, but one without errors. -/
theorem read_toWire (review : WorkbookReview) :
    ImportRequest.read review.toWire = .ok ⟨none, some (review.sheetRows .wire), none⟩ := by
  have rowsRead : readOptional readSheetRows review.wireRows =
      .ok (some (review.sheetRows .wire)) :=
    readOptional_record (readSheetRows_rowsIn review .wire)
  have noData : ∀ name ∈ ["data"], name ∉ ["sheetNames", "sheetData", "validationErrors"] := by
    decide
  have noErrors : ∀ name ∈ ["errors"], name ∉ ["sheetNames", "sheetData", "validationErrors"] := by
    decide
  rw [WorkbookReview.toWire, ImportRequest.read, readPart_of_none noData, sheetDataNames,
    readPart_of_some rfl, rowsRead, under_ok, readPart_of_none noErrors]
  rfl

/-- The batch of a sheet whose recorded errors name the rows of errors. -/
theorem sheetBatch_of_errors {recorded : SheetErrors} {errors : List RowError} {sheet : String}
    (names : (errorsOf recorded sheet).map ErrorEntry.row = errors.map fun error => .int error.row)
    (registry : Registry) (rows : List Row) :
    sheetBatch registry recorded sheet (some rows) =
      .ok (unlisted errors (registry.resolve sheet).keyField rows) := by
  cases rows with
  | nil => rfl
  | cons row rest => exact ofSheet_of_errors names _ (row :: rest)

/-- What is recorded for a sheet in the errors that are sent back are the errors of the sheet. -/
theorem rows_errorsOf_sheetErrors (review : WorkbookReview) (sheet : String) :
    (errorsOf review.sheetErrors sheet).map ErrorEntry.row =
      (review.errorsOf sheet).map fun error => .int error.row := by
  have found := Assoc.get?_map (fun errors : List RowError => some (errors.map RowError.recorded))
    review.errors sheet
  rw [errorsOf, WorkbookReview.sheetErrors, found, WorkbookReview.errorsOf]
  cases Assoc.get? review.errors sheet with
  | none => rfl
  | some errors =>
    rw [Option.map_some, Option.getD_some, Option.getD_some, Option.getD_some, List.map_map]
    rfl

/-- A request with the rows and the errors of a review gives the store the rows that the errors do
not list. -/
theorem batches_with_errors {request : ImportRequest} {review : WorkbookReview} {form : PostedForm}
    (given : request.rows = some (review.sheetRows form))
    (recorded : request.errors = some review.sheetErrors) (registry : Registry) :
    request.batches registry = review.rows.map fun entry => .ok (unlisted
      (review.errorsOf entry.1) (registry.resolve entry.1).keyField (entry.2.map form.row)) := by
  simp only [ImportRequest.batches, given, recorded, sheetBatches, WorkbookReview.sheetRows,
    Option.getD_some, List.map_map]
  apply List.map_congr_left
  intro entry _
  exact sheetBatch_of_errors (rows_errorsOf_sheetErrors review entry.1) registry _

/-- A request without errors gives the store all rows with a key value. -/
theorem batches_without_errors {request : ImportRequest} {review : WorkbookReview}
    {form : PostedForm} (given : request.rows = some (review.sheetRows form))
    (free : request.errors = none) (registry : Registry) :
    request.batches registry = review.rows.map fun entry => .ok (unlisted []
      (registry.resolve entry.1).keyField (entry.2.map form.row)) := by
  simp only [ImportRequest.batches, given, free, sheetBatches, WorkbookReview.sheetRows,
    Option.getD_some, Option.getD_none, List.map_map]
  apply List.map_congr_left
  intro entry _
  exact sheetBatch_of_errors rfl registry _

end Service

end SheetIntake
