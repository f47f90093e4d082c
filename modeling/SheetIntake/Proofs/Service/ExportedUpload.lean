import SheetIntake.Proofs.Row.Mapped
import SheetIntake.Proofs.Service.Repost
import SheetIntake.Proofs.Sheet.RepeatedName
import SheetIntake.Proofs.Workbook.Written
import SheetIntake.Service.Export

/-!
# Uploads that are exported

The rows and the sheet names of a review can be sent back to be written as a workbook. Columns are
written for the fields of the first row alone, so nothing is lost only because all rows of a sheet
have the same fields: those of its schema, which every row is mapped to, however sparse it is.
-/

namespace SheetIntake

namespace WorkbookReview

/-- The rows and the sheet names of a review as a request to export. -/
def exported (review : WorkbookReview) : Value :=
  .record [("sheetData", review.wireRows), ("sheetNames", review.wireNames)]

end WorkbookReview

namespace Service

open Calendar Checked Selection Workbook

/-- The rows and the sheet names of a review are a request to export. -/
theorem read_exported (review : WorkbookReview) :
    ExportRequest.read review.exported =
      .ok ⟨some (review.sheetRows .wire), some review.sheetNames⟩ := by
  have rowsRead : readOptional readSheetRows review.wireRows =
      .ok (some (review.sheetRows .wire)) :=
    readOptional_record (readSheetRows_rowsIn review .wire)
  have namesRead : readOptional (readList readText) review.wireNames =
      .ok (some review.sheetNames) := by
    have nameRead : ∀ name, readText (.text name) = .ok name := fun _ => rfl
    have read := readList_map nameRead review.sheetNames
    rw [List.map_id'] at read
    exact readOptional_of_ne Value.noConfusion read
  rw [WorkbookReview.exported, ExportRequest.read, sheetDataNames, readPart_of_some rfl, rowsRead,
    under_ok, readPart_of_some rfl, namesRead, under_ok]
  rfl

/-- What is written for a worksheet whose sheet was reviewed with a result: if the sheet was
processed and has data rows, a table of the fields of its schema, with one row for each mapped row,
and otherwise a single cell that says that there are no rows. -/
structure IsExported (site : Site) (worksheet : Worksheet) (schema : Schema)
    (result : SheetReview) (grid : Grid) : Prop where
  title : grid.title = worksheet.title
  mapped : result.processed = true → List.Forall₂ (fun row fields =>
    mapRow site (Sheet.namedRow worksheet.header row.cells) schema = .ok fields)
    worksheet.dataRows result.rows
  table : result.processed = true → worksheet.dataRows ≠ [] →
    Writing.Tabulates schema.fields (result.rows.map Value.fieldsToWire) grid.rows
  placeholder : result.processed = false ∨ worksheet.dataRows = [] →
    grid.rows = [[.text Writing.placeholder]]

/-- A row in wire form has the wire forms of its fields. -/
theorem keys_fieldsToWire (fields : Row) :
    Assoc.keys (Value.fieldsToWire fields) = Assoc.keys fields := by
  rw [Value.fieldsToWire_eq_map, Assoc.keys, Assoc.keys, List.map_map]
  rfl

theorem get?_sheetRows (review : WorkbookReview) (form : PostedForm) (name : String) :
    Assoc.get? (review.sheetRows form) name =
      (Assoc.get? review.rows name).map fun rows => some (rows.map form.row) :=
  Assoc.get?_map (fun rows : List Row => some (rows.map form.row)) review.rows name

/-- What is exported under the name of a sheet that a review shows. -/
theorem rows_of_shows {review : WorkbookReview} {result : SheetReview}
    (shows : review.Shows result) :
    (Assoc.get? (review.sheetRows .wire) result.name).join =
      if result.processed then some (result.rows.map Value.fieldsToWire) else none := by
  rw [get?_sheetRows, shows.rows]
  split
  · rfl
  · rfl

/-- A worksheet that is written under the name of a reviewed sheet is as it should be. -/
theorem isExported_of_isStored {site : Site} {worksheet : Worksheet} {schema : Schema}
    {now : DateTime}
    {review : WorkbookReview} {result : SheetReview} {grid : Grid}
    (reviewed : SheetReview.ofSheet site worksheet.toSheet schema now = .ok result)
    (shows : review.Shows result)
    (stored : Writing.IsStored (review.sheetRows .wire) worksheet.title grid) :
    IsExported site worksheet schema result grid := by
  have named : result.name = worksheet.title := WorkbookReview.name_of_ofSheet reviewed
  have given := rows_of_shows shows
  rw [named] at given
  have mapped : result.processed = true → List.Forall₂ (fun row fields =>
      mapRow site (Sheet.namedRow worksheet.header row.cells) schema = .ok fields)
      worksheet.dataRows result.rows := by
    intro processed
    have each := WorkbookReview.forall₂_mapRow_of_ofSheet reviewed processed
    exact each
  refine ⟨stored.1, mapped, fun processed hasRows => ?_, fun without => ?_⟩
  · rw [if_pos processed] at given
    have each := mapped processed
    cases rows : result.rows with
    | nil =>
      rw [rows, List.forall₂_nil_right_iff] at each
      exact absurd each hasRows
    | cons first rest =>
      rw [rows] at given each
      obtain ⟨_, _, firstMapped⟩ :=
        Outcome.exists_matched_of_mem each.flip List.mem_cons_self
      have fields : Assoc.keys (Value.fieldsToWire first) = schema.fields := by
        rw [keys_fieldsToWire, keys_mapRow firstMapped]
      have some : Assoc.keys (Value.fieldsToWire first) ≠ [] := by
        rw [fields]
        exact List.ne_nil_of_mem schema.key_mapped
      rw [← fields]
      exact Writing.tabulates_of_some stored given some
  · apply Writing.rows_of_none stored
    rw [given]
    split
    · next processed =>
      have noRows : worksheet.dataRows = [] := by
        rcases without with skipped | none
        · rw [processed] at skipped
          cases skipped
        · exact none
      have each := mapped processed
      rw [noRows, List.forall₂_nil_left_iff] at each
      rw [each]
      rfl
    · rfl

/-- An export that answers has written the sheets. -/
theorem write_of_exportRows {data : SheetRows} {names : List String} {grids : List Grid}
    (answered : exportRows ⟨some data, some names⟩ = .ok grids) :
    Writing.write data names = .ok grids := by
  unfold exportRows at answered
  dsimp only at answered
  cases written : Writing.write data names with
  | error failure =>
    rw [written] at answered
    cases answered
  | ok made =>
    rw [written] at answered
    cases answered
    rfl

/-- Exporting an upload loses nothing. When its titles are kept, the rows and the sheet names of a
review can be sent back, and what is written for them has one worksheet for each that was uploaded,
in their order and under their titles: the schema's fields and one row for each mapped row where the
sheet was processed and has data rows, and otherwise a single cell that says that there are none. A
workbook without worksheets is written as one such cell. -/
theorem exported_upload_loses_nothing {site : Site} {file : File} {registry : Registry}
    {limit : Int} {now : DateTime} {review : WorkbookReview} {worksheets : List Worksheet}
    (read : file.worksheets = .ok worksheets)
    (kept : Title.AreKept (worksheets.map Worksheet.title))
    (uploaded : upload site (some file) registry limit now = .ok review) :
    ∃ request, ExportRequest.read review.exported = .ok request ∧
      ∀ grids, exportRows request = .ok grids →
        (worksheets = [] →
          grids = [⟨Writing.soleSheetName, [[.text Writing.placeholder]]⟩]) ∧
        (worksheets ≠ [] → List.Forall₂ (fun worksheet grid => ∃ result,
            SheetReview.ofSheet site worksheet.toSheet (registry.resolve worksheet.title) now =
              .ok result ∧
            review.Shows result ∧
            IsExported site worksheet (registry.resolve worksheet.title) result grid)
          worksheets grids) := by
  obtain ⟨sheets, ⟨content, isFile, sheetsRead⟩, reviewed⟩ := reviewed_of_upload uploaded
  obtain rfl := Option.mem_some.mp isFile
  rw [File.sheets, read] at sheetsRead
  obtain rfl : worksheets.map Worksheet.toSheet = sheets := Except.ok.inj sheetsRead
  have names : review.sheetNames = worksheets.map Worksheet.title := by
    rw [WorkbookReview.sheetNames_ofSheets reviewed, List.map_map]
    rfl
  refine ⟨_, read_exported review, fun grids answered => ?_⟩
  have wrote := write_of_exportRows answered
  rw [names] at wrote
  constructor
  · rintro rfl
    have unlisted : Writing.soleSheetName ∉ review.sheetNames := by
      rw [names]
      exact List.not_mem_nil
    have absent := (WorkbookReview.get?_eq_none_of_unlisted reviewed unlisted).1
    refine Writing.eq_of_write_nil ?_ wrote
    rw [get?_sheetRows, absent]
    rfl
  · intro some
    have stored := Writing.forall₂_of_write kept wrote
    have shown : ∀ worksheet ∈ worksheets, ∃ result,
        SheetReview.ofSheet site worksheet.toSheet (registry.resolve worksheet.title) now =
          .ok result ∧ review.Shows result := by
      intro worksheet present
      have distinct : ((worksheets.map Worksheet.toSheet).map Sheet.name).Nodup := by
        rw [List.map_map]
        exact List.Nodup.of_map Text.lower kept.apart
      exact WorkbookReview.shows_of_distinct reviewed distinct (List.mem_map_of_mem present)
    have named : Writing.writtenNames (worksheets.map Worksheet.title) =
        worksheets.map Worksheet.title := by
      rw [Writing.writtenNames, if_neg]
      rwa [List.isEmpty_iff, List.map_eq_nil_iff]
    rw [named, List.forall₂_map_left_iff] at stored
    apply ((List.forall₂_and_left _ _).mpr ⟨shown, stored⟩).imp
    rintro worksheet grid ⟨⟨result, resultReviewed, shows⟩, gridStored⟩
    exact ⟨result, resultReviewed, shows,
      isExported_of_isStored resultReviewed shows gridStored⟩

/-- A workbook of a sheet with a row that has a name alone and a sheet without the columns. -/
def fileWithSparseRow : File :=
  .ofGrids [
    ⟨"Orders", [[.text "Name", .text "Amount", .text "Date", .text "Verified"], [.text "Ann"]]⟩,
    ⟨"Notes", [[.text "Remark"], [.text "late"]]⟩]

/-- The first of these sheets as it is read. -/
def worksheetWithSparseRow : Worksheet :=
  .ofRows "Orders" [⟨1, [(0, .text "Name"), (1, .text "Amount"), (2, .text "Date"),
    (3, .text "Verified")]⟩, ⟨2, [(0, .text "Ann")]⟩]

/-- The second of these sheets as it is read. -/
def worksheetWithoutColumns : Worksheet :=
  .ofRows "Notes" [⟨1, [(0, .text "Remark")]⟩, ⟨2, [(0, .text "late")]⟩]

theorem exported_upload_with_sparse_row :
    fileWithSparseRow.worksheets = .ok [worksheetWithSparseRow, worksheetWithoutColumns] ∧
      Title.AreKept ["Orders", "Notes"] ∧
      ∃ review request orders notes mapped,
        upload WorkbookReview.siteOfAnn (some fileWithSparseRow) .builtin 100000
          WorkbookReview.dayOfAnn = .ok review ∧
        ExportRequest.read review.exported = .ok request ∧
        exportRows request = .ok [orders, notes] ∧
        orders.title = "Orders" ∧
        mapRow WorkbookReview.siteOfAnn [("Name", .text "Ann")] .builtin = .ok mapped ∧
        Writing.Tabulates Schema.builtin.fields [Value.fieldsToWire mapped] orders.rows ∧
        notes.title = "Notes" ∧ notes.rows = [[.text Writing.placeholder]] := by
  have read : fileWithSparseRow.worksheets =
      .ok [worksheetWithSparseRow, worksheetWithoutColumns] := rfl
  have kept : Title.AreKept ["Orders", "Notes"] := ⟨by decide, by decide⟩
  have evaluated : ((upload WorkbookReview.siteOfAnn (some fileWithSparseRow) .builtin 100000
      WorkbookReview.dayOfAnn).toOption.any fun review =>
        (exportRows ⟨some (review.sheetRows .wire), some review.sheetNames⟩).toOption.isSome) =
      true := by decide +kernel
  rw [Option.any_eq_true] at evaluated
  obtain ⟨review, answered, written⟩ := evaluated
  have uploaded := Outcome.eq_ok_of_toOption answered
  obtain ⟨request, requestRead, exported⟩ := exported_upload_loses_nothing read kept uploaded
  obtain rfl : ⟨some (review.sheetRows .wire), some review.sheetNames⟩ = request :=
    Except.ok.inj ((read_exported review).symm.trans requestRead)
  obtain ⟨grids, exportAnswered⟩ := Option.isSome_iff_exists.mp written
  have gridsWritten := Outcome.eq_ok_of_toOption exportAnswered
  have each := (exported grids gridsWritten).2 (List.cons_ne_nil _ _)
  obtain ⟨orders, _, ⟨first, firstReviewed, _, ordersExported⟩, rest, rfl⟩ :=
    List.forall₂_cons_left_iff.mp each
  obtain ⟨notes, _, ⟨second, secondReviewed, _, notesExported⟩, none, rfl⟩ :=
    List.forall₂_cons_left_iff.mp rest
  obtain rfl := List.forall₂_nil_left_iff.mp none
  have firstProcessed : first.processed = true :=
    Except.ok.inj (congrArg (Except.map SheetReview.processed) firstReviewed).symm
  have secondSkipped : second.processed = false :=
    Except.ok.inj (congrArg (Except.map SheetReview.processed) secondReviewed).symm
  have mapped := ordersExported.mapped firstProcessed
  obtain ⟨fields, _, rowMapped, noOthers, rows⟩ := List.forall₂_cons_left_iff.mp mapped
  obtain rfl := List.forall₂_nil_left_iff.mp noOthers
  have tabulated := ordersExported.table firstProcessed (List.cons_ne_nil _ _)
  rw [rows] at tabulated
  exact ⟨read, kept, review, _, orders, notes, fields, uploaded, requestRead, gridsWritten,
    ordersExported.title, rowMapped, tabulated, notesExported.title,
    notesExported.placeholder (.inl secondSkipped)⟩

end Service

end SheetIntake
