import SheetIntake.Proofs.Service.Repost
import SheetIntake.Proofs.Sheet.RepeatedName
import SheetIntake.Proofs.Workbook.Layout

/-!
# Uploads account for their worksheets

An upload says what it found in every worksheet, in terms of the cells of the worksheet alone. The
first row gives the headers. Every later row with something in it is mapped and checked under its
own number, and nothing else is. A worksheet that lacks headers has no rows and one error, which
names them.
-/

namespace SheetIntake

open Calendar Workbook

namespace Workbook.Worksheet

/-- The headers that a schema requires and the first row lacks, in the order of the schema. -/
structure Lacks (worksheet : Worksheet) (schema : Schema) (missing : List String) : Prop where
  in_order : missing.Sublist schema.requiredColumns
  mem_iff : ∀ header ∈ schema.requiredColumns,
    header ∈ missing ↔ ∀ column, worksheet.headerText? column ≠ some header

/-- The numbers of the data rows, and what each row holds under the headers. -/
structure Lists (worksheet : Worksheet) (numbers : List Int) (record : Int → Row) : Prop where
  ascending : numbers.Pairwise fun earlier later => earlier < later
  mem_iff : ∀ number, number ∈ numbers ↔
    (firstDataRowNumber : Int) ≤ number ∧
      ∃ column value, worksheet.cell? number column = some value ∧ value.isBlankCell = false
  get?_iff : ∀ number header value,
    Assoc.get? (record number) header = some value ↔
      ∃ column, worksheet.headerText? column = some header ∧
        worksheet.cell? number column = some value ∧
        ∀ later, column < later → worksheet.headerText? later = some header →
          worksheet.cell? number later = none

theorem lacks_missingColumns {worksheet : Worksheet} (ordered : worksheet.IsOrdered)
    (schema : Schema) : worksheet.Lacks schema (Sheet.missingColumns worksheet.header schema) where
  in_order := List.filter_sublist
  mem_iff header required := by
    have named : header ∈ Assoc.values worksheet.header ↔
        ∃ column, worksheet.headerText? column = some header := by
      simp only [← get?_header ordered, ordered.columnsAscend_header.get?_eq_some_iff]
      simp [Assoc.values]
    rw [Sheet.missingColumns, List.mem_filter, and_iff_right required, Bool.not_eq_true',
      ← Bool.not_eq_true, List.contains_iff_mem, named, not_exists]

theorem lists_record {worksheet : Worksheet} (ordered : worksheet.IsOrdered) :
    worksheet.Lists worksheet.dataNumbers worksheet.record where
  ascending := worksheet.pairwise_dataNumbers
  mem_iff _ := mem_dataNumbers_iff ordered
  get?_iff _ _ _ := get?_record_iff ordered

/-- What is done with each data row is done with what stands at its number. -/
theorem mapM_dataRows {α : Type} (worksheet : Worksheet)
    (operation : Int → Row → Except Failure α) :
    (worksheet.toSheet.rows.mapM fun row =>
        operation row.number (Sheet.namedRow worksheet.toSheet.header row.cells)) =
      worksheet.dataNumbers.mapM fun number => operation number (worksheet.record number) := by
  rw [dataNumbers, List.mapM_map]
  apply Outcome.mapM_congr
  intro row present
  have inRows : row ∈ worksheet.rows := List.mem_of_mem_filter present
  rw [Function.comp_apply, record, cellsAt_number inRows]
  rfl

end Workbook.Worksheet

namespace SheetReview

variable {site : Site} {sheet : Sheet} {schema : Schema} {now : DateTime} {result : SheetReview}

/-- A sheet with all columns is processed: its rows are mapped and checked one by one. -/
theorem of_complete (reviewed : ofSheet site sheet schema now = .ok result)
    (complete : Sheet.missingColumns sheet.header schema = []) :
    result.processed = true ∧
      (sheet.rows.mapM fun row => mapRow site (Sheet.namedRow sheet.header row.cells) schema) =
        .ok result.rows ∧
      ∃ errors, (sheet.rows.mapM fun row =>
          checkRow site (Sheet.namedRow sheet.header row.cells) schema row.number now) =
            .ok errors ∧
        result.errors = errors.flatten := by
  rw [ofSheet, if_neg (not_not.mpr complete)] at reviewed
  obtain ⟨found, answered, last⟩ := Outcome.bind_eq_ok_iff.mp reviewed
  cases last
  have taken : List.Forall₂ (fun row answer =>
      checkRow site (Sheet.namedRow sheet.header row.cells) schema row.number now = .ok answer.1 ∧
        mapRow site (Sheet.namedRow sheet.header row.cells) schema = .ok answer.2)
        sheet.rows found := by
    apply (Outcome.mapM_eq_ok_iff.mp answered).imp
    intro row answer rowAnswered
    obtain ⟨errors, checked, rest⟩ := Outcome.bind_eq_ok_iff.mp rowAnswered
    obtain ⟨mapped, mappedHere, last⟩ := Outcome.bind_eq_ok_iff.mp rest
    cases last
    exact ⟨checked, mappedHere⟩
  refine ⟨rfl, ?_, found.map Prod.fst, ?_, rfl⟩
  · rw [Outcome.mapM_eq_ok_iff, List.forall₂_map_right_iff]
    exact taken.imp fun _ _ both => both.2
  · rw [Outcome.mapM_eq_ok_iff, List.forall₂_map_right_iff]
    exact taken.imp fun _ _ both => both.1

/-- A sheet that lacks columns has one error at its header. -/
theorem of_incomplete (reviewed : ofSheet site sheet schema now = .ok result)
    (incomplete : Sheet.missingColumns sheet.header schema ≠ []) :
    result.processed = false ∧
      result.errors = [headerError (Sheet.missingColumns sheet.header schema)] := by
  rw [ofSheet, if_pos incomplete] at reviewed
  cases reviewed
  exact ⟨rfl, rfl⟩

end SheetReview

namespace Service

/-- An upload that is answered accounts for every row of every worksheet, if no two worksheets have
one title. The titles are listed in their order, and there is nothing under any other name. A
worksheet that lacks no header has the mapped rows and the errors of its data rows, each under its
own number. A worksheet that lacks headers has one error. -/
theorem upload_accounts_for_rows {site : Site} {file : File} {worksheets : List Worksheet}
    {registry : Registry} {limit : Int} {now : DateTime} {review : WorkbookReview}
    (read : file.worksheets = .ok worksheets)
    (distinct : (worksheets.map Worksheet.title).Nodup)
    (uploaded : upload site (some file) registry limit now = .ok review) :
    review.sheetNames = worksheets.map Worksheet.title ∧
      (∀ name, name ∉ review.sheetNames →
        Assoc.get? review.rows name = none ∧ Assoc.get? review.errors name = none) ∧
      ∀ worksheet ∈ worksheets,
        let schema := registry.resolve worksheet.title
        ∃ missing, worksheet.Lacks schema missing ∧
          (missing = [] → ∃ numbers record mapped errors,
            worksheet.Lists numbers record ∧
            (numbers.mapM fun number => mapRow site (record number) schema) = .ok mapped ∧
            (numbers.mapM fun number => checkRow site (record number) schema number now) =
              .ok errors ∧
            Assoc.get? review.rows worksheet.title = some mapped ∧
            Assoc.get? review.errors worksheet.title =
              if errors.flatten = [] then none else some errors.flatten) ∧
          (missing ≠ [] →
            Assoc.get? review.rows worksheet.title = none ∧
            ∃ error, Assoc.get? review.errors worksheet.title = some [error] ∧ error.row = 1 ∧
              error.message = "Missing required columns: " ++ ", ".intercalate missing) := by
  obtain ⟨sheets, ⟨content, given, sheetsRead⟩, reviewed⟩ := reviewed_of_upload uploaded
  cases given
  rw [File.sheets, read] at sheetsRead
  cases sheetsRead
  have names : (worksheets.map Worksheet.toSheet).map Sheet.name =
      worksheets.map Worksheet.title := by
    rw [List.map_map]
    rfl
  refine ⟨(WorkbookReview.sheetNames_ofSheets reviewed).trans names,
    fun name unlisted => WorkbookReview.get?_eq_none_of_unlisted reviewed unlisted, ?_⟩
  intro worksheet present schema
  have ordered := File.isOrdered_of_mem_worksheets read present
  obtain ⟨result, resultReviewed, rowsShown, errorsShown⟩ :=
    WorkbookReview.shows_of_distinct reviewed (names.symm ▸ distinct)
      (List.mem_map_of_mem (f := Worksheet.toSheet) present)
  rw [WorkbookReview.name_of_ofSheet resultReviewed] at rowsShown errorsShown
  refine ⟨_, Worksheet.lacks_missingColumns ordered schema, fun complete => ?_,
    fun incomplete => ?_⟩
  · obtain ⟨processed, mapped, errors, checked, listed⟩ :=
      SheetReview.of_complete resultReviewed complete
    refine ⟨_, _, result.rows, errors, Worksheet.lists_record ordered, ?_, ?_, ?_, ?_⟩
    · rw [← mapped]
      exact (worksheet.mapM_dataRows fun _ record => mapRow site record schema).symm
    · rw [← checked]
      exact (worksheet.mapM_dataRows fun number record =>
        checkRow site record schema number now).symm
    · rw [processed] at rowsShown
      exact rowsShown
    · rw [WorkbookReview.hasErrors, listed] at errorsShown
      refine errorsShown.trans ?_
      cases errors.flatten <;> rfl
  · obtain ⟨skipped, listed⟩ := SheetReview.of_incomplete resultReviewed incomplete
    rw [skipped] at rowsShown
    rw [WorkbookReview.hasErrors, listed] at errorsShown
    exact ⟨rowsShown, _, errorsShown, rfl, rfl⟩

/-- A sheet with a blank row below a header that names two columns alike. -/
def fileWithRepeatedHeader : File :=
  .ofGrids [⟨"S", [[.text "Name", .text "Amount", .text "Date", .text "Verified", .text "Name"], [],
    [.text "Ann", .int 5, .text "2024-01-15", .text "Yes", .text "Bob"]]⟩]

/-- That sheet as it is read. -/
def worksheetWithRepeatedHeader : Worksheet :=
  .ofRows "S" [⟨1, [(0, .text "Name"), (1, .text "Amount"), (2, .text "Date"),
      (3, .text "Verified"), (4, .text "Name")]⟩, ⟨2, []⟩,
    ⟨3, [(0, .text "Ann"), (1, .int 5), (2, .text "2024-01-15"), (3, .text "Yes"),
      (4, .text "Bob")]⟩]

theorem upload_accounts_for_row_below_blank_row :
    fileWithRepeatedHeader.worksheets = .ok [worksheetWithRepeatedHeader] ∧
      ([worksheetWithRepeatedHeader].map Worksheet.title).Nodup ∧
      ∃ review,
        upload WorkbookReview.siteOfAnn (some fileWithRepeatedHeader) .builtin 100000
          WorkbookReview.dayOfAnn = .ok review ∧
        ∃ (numbers : List Int) (record : Int → Row) (mapped : List Row), 2 ∉ numbers ∧ 3 ∈ numbers ∧
          Assoc.get? (record 3) "Name" = some (.text "Bob") ∧
          (numbers.mapM fun number => mapRow WorkbookReview.siteOfAnn (record number) .builtin) =
            .ok mapped ∧
          Assoc.get? review.rows "S" = some mapped := by
  have read : fileWithRepeatedHeader.worksheets = .ok [worksheetWithRepeatedHeader] := rfl
  have distinct : ([worksheetWithRepeatedHeader].map Worksheet.title).Nodup := by decide
  have evaluated : (upload WorkbookReview.siteOfAnn (some fileWithRepeatedHeader) .builtin 100000
      WorkbookReview.dayOfAnn).toOption.isSome = true := by decide +kernel
  obtain ⟨review, answered⟩ := Option.isSome_iff_exists.mp evaluated
  have uploaded := Outcome.eq_ok_of_toOption answered
  obtain ⟨_, _, accounted⟩ := upload_accounts_for_rows read distinct uploaded
  obtain ⟨missing, lacks, complete, _⟩ :=
    accounted worksheetWithRepeatedHeader List.mem_cons_self
  have named : ∀ header ∈ Schema.builtin.requiredColumns,
      ∃ column, worksheetWithRepeatedHeader.headerText? column = some header := by
    have shown : ∀ header ∈ Schema.builtin.requiredColumns, ∃ column ∈ List.range 5,
        worksheetWithRepeatedHeader.headerText? column = some header := by decide +kernel
    intro header required
    obtain ⟨column, _, here⟩ := shown header required
    exact ⟨column, here⟩
  have whole : missing = [] := by
    rw [List.eq_nil_iff_forall_not_mem]
    intro header present
    have required := lacks.in_order.subset present
    obtain ⟨column, here⟩ := named header required
    exact (lacks.mem_iff header required).mp present column here
  obtain ⟨numbers, record, mapped, _, lists, mappedHere, _, rowsShown, _⟩ := complete whole
  refine ⟨read, distinct, review, uploaded, numbers, record, mapped, ?_, ?_, ?_, mappedHere,
    rowsShown⟩
  · rw [lists.mem_iff]
    rintro ⟨_, column, value, found, _⟩
    cases found
  · rw [lists.mem_iff]
    exact ⟨by decide, 0, .text "Ann", rfl, rfl⟩
  · rw [lists.get?_iff]
    refine ⟨4, rfl, rfl, fun later after _ => ?_⟩
    have columns : Assoc.keys (worksheetWithRepeatedHeader.cellsAt 3) = [0, 1, 2, 3, 4] := rfl
    rw [Worksheet.cell?, Assoc.get?_eq_none_iff, columns]
    simp only [List.mem_cons, List.not_mem_nil, or_false]
    omega

end Service

end SheetIntake
