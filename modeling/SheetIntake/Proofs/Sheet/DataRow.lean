import SheetIntake.Proofs.Row.Verdict
import SheetIntake.Proofs.Sheet.Review
import SheetIntake.Proofs.Sheet.Selection

/-!
# Data rows and their two numbers

A data row has the number that it has in the worksheet, and an index among the data rows of its
sheet. Errors name rows by the first; a selection counts by the second and takes the row at an index
for the one that many places below the first data row. `IsAligned` says that this makes no
difference to a row, and `unlisted_of_reviewed` which rows a selection keeps in any case.
-/

namespace SheetIntake

open Calendar

/-- A data row of a sheet, with its index among the data rows of the sheet. -/
structure DataRow where
  sheet : Sheet
  index : Nat
  row : SheetRow

/-- Whether a sheet has all columns that its schema requires. -/
def Sheet.isComplete (schema : Schema) (sheet : Sheet) : Bool :=
  (missingColumns sheet.header schema).isEmpty

namespace DataRow

/-- The data rows of a sheet. -/
def ofSheet (sheet : Sheet) : List DataRow :=
  sheet.rows.zipIdx.map fun entry => ⟨sheet, entry.2, entry.1⟩

/-- The data rows of the sheets that are processed, in sheet order. -/
def ofSheets (schema : Schema) (sheets : List Sheet) : List DataRow :=
  (sheets.filter (Sheet.isComplete schema)).flatMap ofSheet

/-- Counting the data rows of a sheet again gives each the same index. -/
theorem zipIdx_ofSheet (sheet : Sheet) :
    (ofSheet sheet).zipIdx = (ofSheet sheet).map fun entry => (entry, entry.index) := by
  apply List.ext_getElem
  · rw [List.length_zipIdx, List.length_map]
  · intro place _ _
    simp [ofSheet]

/-- A data row is a row of its sheet. -/
theorem mem_rows_of_mem_ofSheet {sheet : Sheet} {entry : DataRow}
    (present : entry ∈ ofSheet sheet) : entry.sheet = sheet ∧ entry.row ∈ sheet.rows := by
  obtain ⟨place, inRows, rfl⟩ := List.mem_map.mp present
  exact ⟨rfl, List.fst_mem_of_mem_zipIdx inRows⟩

section

variable (site : Site) (schema : Schema) (now : DateTime)

/-- What the review of a data row finds: its errors and its fields. -/
def reviewed? (entry : DataRow) : Option (List RowError × Row) :=
  (SheetReview.ofRow site entry.sheet.header schema now entry.row).toOption

/-- The errors of a data row. -/
def errors (entry : DataRow) : List RowError :=
  ((entry.reviewed? site schema now).map Prod.fst).getD []

/-- The fields of a data row. -/
def fields (entry : DataRow) : Row :=
  ((entry.reviewed? site schema now).map Prod.snd).getD []

/-- Whether a data row is reviewed without an error. -/
def isClean (entry : DataRow) : Bool :=
  (entry.reviewed? site schema now).any fun reviewed => reviewed.1.isEmpty

/-- Whether the row that the index of a data row stands for, if there is one, is clean. -/
def isFree (entry : DataRow) : Bool :=
  (ofSheet entry.sheet).all fun other =>
    other.row.number != Int.ofNat (entry.index + firstDataRowNumber) ||
      other.isClean site schema now

/-- A data row is as clean as the row that its index stands for. -/
def IsAligned (entry : DataRow) : Prop :=
  entry.isFree site schema now = entry.isClean site schema now

end

variable {site : Site} {schema : Schema} {now : DateTime}

/-- In a sheet whose data rows follow the header without a gap, every data row is aligned. -/
theorem isAligned_of_consecutive {sheet : Sheet}
    (consecutive : ∀ entry ∈ ofSheet sheet,
      entry.row.number = Int.ofNat (entry.index + firstDataRowNumber))
    {entry : DataRow} (present : entry ∈ ofSheet sheet) : entry.IsAligned site schema now := by
  have onlyOne : ∀ other ∈ ofSheet sheet,
      other.row.number = Int.ofNat (entry.index + firstDataRowNumber) → other = entry := by
    intro other otherPresent sameNumber
    have sameIndex : other.index = entry.index := by
      have number := consecutive other otherPresent
      rw [sameNumber] at number
      have sums := Int.ofNat_inj.mp number
      omega
    obtain ⟨place, inRows, rfl⟩ := List.mem_map.mp present
    obtain ⟨otherPlace, otherInRows, rfl⟩ := List.mem_map.mp otherPresent
    rw [List.mk_mem_zipIdx_iff_getElem?] at inRows otherInRows
    dsimp only at sameIndex
    rw [sameIndex, inRows] at otherInRows
    rw [sameIndex, Option.some.inj otherInRows]
  rw [IsAligned, Bool.eq_iff_iff, isFree, List.all_eq_true, (mem_rows_of_mem_ofSheet present).1]
  constructor
  · intro free
    have own := free entry present
    rw [consecutive entry present, bne_self_eq_false, Bool.false_or] at own
    exact own
  · intro clean other otherPresent
    rw [Bool.or_eq_true, bne_iff_ne]
    by_cases same : other.row.number = Int.ofNat (entry.index + firstDataRowNumber)
    · right
      rw [onlyOne other otherPresent same]
      exact clean
    · left
      exact same

/-- A data row that is reviewed was checked and mapped. -/
theorem reviewed?_eq_some_iff {entry : DataRow} {errors : List RowError} {fields : Row} :
    entry.reviewed? site schema now = some (errors, fields) ↔
      checkRow site (Sheet.namedRow entry.sheet.header entry.row.cells) schema entry.row.number
          now =
          .ok errors ∧
        mapRow site (Sheet.namedRow entry.sheet.header entry.row.cells) schema = .ok fields := by
  rw [reviewed?, SheetReview.ofRow]
  constructor
  · intro found
    obtain ⟨given, checked, rest⟩ := Outcome.bind_eq_ok_iff.mp (Outcome.eq_ok_of_toOption found)
    obtain ⟨held, mapped, last⟩ := Outcome.bind_eq_ok_iff.mp rest
    cases last
    exact ⟨checked, mapped⟩
  · rintro ⟨checked, mapped⟩
    rw [checked, mapped]
    rfl

/-- A data row is clean when it is reviewed and has no errors. -/
theorem isClean_eq_true_iff {entry : DataRow} :
    entry.isClean site schema now = true ↔
      entry.reviewed? site schema now = some ([], entry.fields site schema now) := by
  rw [isClean, fields]
  cases entry.reviewed? site schema now with
  | none => simp
  | some reviewed =>
    obtain ⟨errors, fields⟩ := reviewed
    simp [List.isEmpty_iff]

/-- All errors of a data row name its number. -/
theorem number_of_mem_errors {entry : DataRow} {error : RowError}
    (present : error ∈ entry.errors site schema now) : (error.row : Int) = entry.row.number := by
  rw [errors] at present
  cases found : entry.reviewed? site schema now with
  | none =>
    rw [found] at present
    cases present
  | some reviewed =>
    rw [found] at present
    exact number_of_mem_checkRow (reviewed?_eq_some_iff.mp found).1 present

/-- A data row that is reviewed but not clean has errors. -/
theorem exists_error_of_not_clean {entry : DataRow}
    (reviewed : (entry.reviewed? site schema now).isSome = true)
    (unclean : entry.isClean site schema now = false) :
    ∃ error, error ∈ entry.errors site schema now := by
  obtain ⟨⟨errors, fields⟩, found⟩ := Option.isSome_iff_exists.mp reviewed
  rw [isClean, found, Option.any_some] at unclean
  rw [DataRow.errors, found]
  exact List.exists_mem_of_ne_nil errors (by simpa [List.isEmpty_iff] using unclean)

/-- A data row with an error is not clean. -/
theorem not_clean_of_mem_errors {entry : DataRow} {error : RowError}
    (present : error ∈ entry.errors site schema now) : entry.isClean site schema now = false := by
  by_contra clean
  rw [Bool.not_eq_false, isClean_eq_true_iff] at clean
  rw [errors, clean] at present
  cases present

/-- The errors of a sheet list an index unless the row that it stands for is clean. -/
theorem isListed_errors {sheet : Sheet}
    (reviewed : ∀ entry ∈ ofSheet sheet, (entry.reviewed? site schema now).isSome = true)
    {entry : DataRow} (present : entry ∈ ofSheet sheet) :
    Selection.isListed ((ofSheet sheet).flatMap (errors site schema now)) entry.index =
      !entry.isFree site schema now := by
  rw [Bool.eq_iff_iff, Selection.isListed_eq_true_iff, Bool.not_eq_true', isFree,
    List.all_eq_false, (mem_rows_of_mem_ofSheet present).1]
  -- Errors name worksheet rows, so the row that an error names is found by its number.
  constructor
  · rintro ⟨error, listed, named⟩
    obtain ⟨other, otherPresent, ofOther⟩ := List.mem_flatMap.mp listed
    have number := number_of_mem_errors ofOther
    refine ⟨other, otherPresent, ?_⟩
    rw [← number, named, not_clean_of_mem_errors ofOther]
    simp
  · rintro ⟨other, otherPresent, unfree⟩
    rw [Bool.not_eq_true, Bool.or_eq_false_iff] at unfree
    obtain ⟨error, ofOther⟩ :=
      exists_error_of_not_clean (reviewed other otherPresent) unfree.2
    refine ⟨error, List.mem_flatMap.mpr ⟨other, otherPresent, ofOther⟩, ?_⟩
    have number := number_of_mem_errors ofOther
    have sameNumber := bne_eq_false_iff_eq.mp unfree.1
    rw [← number] at sameNumber
    exact Int.ofNat_inj.mp sameNumber

/-- Whether a data row has a key value in a form of its fields, and its index stands for no row that
is not clean. -/
def isKept (site : Site) (schema : Schema) (now : DateTime) (form : Row → Row)
    (entry : DataRow) : Bool :=
  entry.isFree site schema now &&
    Selection.isKeyed schema.keyField (form (entry.fields site schema now))

/-- What a selection keeps of a sheet that is reviewed. -/
theorem unlisted_of_reviewed {sheet : Sheet}
    (reviewed : ∀ entry ∈ ofSheet sheet, (entry.reviewed? site schema now).isSome = true)
    (form : Row → Row) :
    Selection.unlisted ((ofSheet sheet).flatMap (errors site schema now)) schema.keyField
        ((ofSheet sheet).map fun entry => form (entry.fields site schema now)) =
      ((ofSheet sheet).filter (isKept site schema now form)).map
        fun entry => form (entry.fields site schema now) := by
  have places : ((ofSheet sheet).map fun entry => form (entry.fields site schema now)).zipIdx =
      (ofSheet sheet).map fun entry => (form (entry.fields site schema now), entry.index) := by
    rw [List.zipIdx_map, zipIdx_ofSheet, List.map_map]
    rfl
  have kept : (ofSheet sheet).filter (Selection.isUnlisted
        ((ofSheet sheet).flatMap (errors site schema now)) schema.keyField ∘
          fun entry => (form (entry.fields site schema now), entry.index)) =
      (ofSheet sheet).filter (isKept site schema now form) := by
    apply List.filter_congr
    intro entry present
    rw [Function.comp_apply, Selection.isUnlisted, isListed_errors reviewed present,
      Bool.not_not, isKept]
  rw [Selection.unlisted, places, List.filter_map, List.map_map, kept]
  rfl

/-- A column of results for the rows of a sheet is one for its data rows. -/
theorem map_ofSheet {α : Type} {sheet : Sheet} {ofRow : SheetRow → α} {ofEntry : DataRow → α}
    (agree : ∀ index row, ofEntry ⟨sheet, index, row⟩ = ofRow row) :
    (ofSheet sheet).map ofEntry = sheet.rows.map ofRow := by
  have same : (ofEntry ∘ fun entry : SheetRow × Nat => ⟨sheet, entry.2, entry.1⟩) =
      ofRow ∘ Prod.fst := by
    funext entry
    exact agree entry.2 entry.1
  rw [ofSheet, List.map_map, same, ← List.map_map, List.zipIdx_map_fst]

/-- A sheet that lacks columns is not processed. -/
theorem processed_of_incomplete {sheet : Sheet} {result : SheetReview}
    (reviewed : SheetReview.ofSheet site sheet schema now = .ok result)
    (incomplete : sheet.isComplete schema = false) : result.processed = false := by
  have missing : Sheet.missingColumns sheet.header schema ≠ [] := by
    simpa [Sheet.isComplete, List.isEmpty_iff] using incomplete
  rw [SheetReview.ofSheet, if_pos missing] at reviewed
  cases reviewed
  rfl

/-- The review of a sheet with all its columns has the fields and the errors of its data rows. -/
theorem review_of_complete {sheet : Sheet} {result : SheetReview}
    (reviewed : SheetReview.ofSheet site sheet schema now = .ok result)
    (complete : sheet.isComplete schema = true) :
    (∀ entry ∈ ofSheet sheet, (entry.reviewed? site schema now).isSome = true) ∧
      result = ⟨sheet.name, (ofSheet sheet).map (fields site schema now),
        (ofSheet sheet).flatMap (errors site schema now), true⟩ := by
  have missing : ¬ Sheet.missingColumns sheet.header schema ≠ [] := by
    simpa [Sheet.isComplete, List.isEmpty_iff] using complete
  rw [SheetReview.ofSheet, if_neg missing] at reviewed
  obtain ⟨results, answered, last⟩ := Outcome.bind_eq_ok_iff.mp reviewed
  cases last
  constructor
  · intro entry present
    obtain ⟨sameSheet, inRows⟩ := mem_rows_of_mem_ofSheet present
    obtain ⟨found, _, rowReviewed⟩ := Outcome.exists_answer_of_mem answered inRows
    rw [reviewed?, sameSheet, rowReviewed]
    rfl
  · let review (row : SheetRow) : Option (List RowError × Row) :=
      (SheetReview.ofRow site sheet.header schema now row).toOption
    have columns : results = sheet.rows.map fun row => (review row).getD ([], []) := by
      apply Outcome.answers_eq_map answered
      intro row answer rowAnswered
      have found : review row = some answer := by
        simp only [review, rowAnswered, Except.toOption]
      rw [found, Option.getD_some]
    have fieldsColumn : (ofSheet sheet).map (fields site schema now) = results.map Prod.snd := by
      rw [columns, List.map_map]
      apply map_ofSheet
      intro index row
      exact Option.getD_map Prod.snd ([], []) (review row)
    have errorsColumn : (ofSheet sheet).map (errors site schema now) = results.map Prod.fst := by
      rw [columns, List.map_map]
      apply map_ofSheet
      intro index row
      exact Option.getD_map Prod.fst ([], []) (review row)
    rw [fieldsColumn, List.flatMap_def, errorsColumn]

/-- What selections keep of the sheets that are reviewed, sheet by sheet. -/
theorem unlisted_of_reviews {sheets : List Sheet} {reviews : List SheetReview}
    (reviewed : List.Forall₂ (fun sheet result =>
      SheetReview.ofSheet site sheet schema now = .ok result) sheets reviews)
    (form : Row → Row) :
    ((reviews.filter SheetReview.processed).map fun result =>
        Selection.unlisted result.errors schema.keyField (result.rows.map form)) =
      (sheets.filter (Sheet.isComplete schema)).map fun sheet =>
        ((ofSheet sheet).filter (isKept site schema now form)).map
          fun entry => form (entry.fields site schema now) := by
  induction reviewed with
  | nil => rfl
  | @cons sheet result sheets reviews here _ inductionHypothesis =>
    cases complete : sheet.isComplete schema with
    | false =>
      have skipped : ¬ result.processed = true := by
        rw [processed_of_incomplete here complete]
        exact Bool.false_ne_true
      rw [List.filter_cons_of_neg skipped, List.filter_cons_of_neg (by rw [complete]; simp)]
      exact inductionHypothesis
    | true =>
      obtain ⟨allReviewed, rfl⟩ := review_of_complete here complete
      rw [List.filter_cons_of_pos rfl, List.filter_cons_of_pos complete, List.map_cons,
        List.map_cons, inductionHypothesis, List.map_map]
      congr 1
      exact unlisted_of_reviewed allReviewed form

end DataRow

end SheetIntake
