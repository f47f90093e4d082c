import Mathlib.Data.Fintype.EquivFin
import SheetIntake.Proofs.Service.Repost

/-!
# A review sent back as a whole

A review that is sent back as a whole is a request without errors, because the name under which a
review has its errors is not one under which a request is asked for them. So a row that has errors
is stored like any other. `Indifferent` says for which errors and rows this makes no difference, and
`importRows_whole_review_iff` that in all other cases there is a registry under which it makes one.
-/

namespace SheetIntake

/-- A schema of one column, whose field is the key field. -/
def Schema.keyedBy (keyField : String) : Schema where
  mapping := [("", keyField)]
  rules := [("", { kind := .text })]
  keyField := keyField
  columns_nodup := List.nodup_singleton _
  rules_nodup := List.nodup_singleton _
  covered := by simp [Assoc.keys, Assoc.contains, Assoc.get?]
  fields_nodup := List.nodup_singleton _
  key_mapped := List.mem_singleton_self _

/-- A registry with one key field for a sheet and another for all other sheets. -/
def Registry.keyedBy (sheet keyField other : String) : Registry :=
  ⟨.keyedBy other, [(sheet, .keyedBy keyField)]⟩

theorem Registry.keyField_keyedBy (sheet keyField other asked : String) :
    ((keyedBy sheet keyField other).resolve asked).keyField =
      if sheet = asked then keyField else other := by
  rw [resolve, keyedBy, Assoc.get?_cons]
  split
  · rfl
  · rfl

namespace Service

open Calendar Selection Workbook

/-- Whether an import of rows is the same with errors and without them, for every key field. Either
the errors list no row with a key value, or a row that they do not list has a key value and cannot
be stored, and then the sheet fails with them as without them. -/
def Indifferent (errors : List RowError) (rows : List Row) : Prop :=
  ∀ keyField,
    (∀ entry ∈ rows.zipIdx, isListed errors entry.2 = true → isKeyed keyField entry.1 = false) ∨
      ∃ row ∈ unlisted errors keyField rows, row.kept? = none

/-- Some field is in no row of a review. -/
theorem exists_unused_field (review : WorkbookReview) (form : PostedForm) :
    ∃ field, ∀ entry ∈ review.rows, unlisted [] field (entry.2.map form.row) = [] := by
  let used : List String := review.rows.flatMap fun entry =>
    (entry.2.map form.row).flatMap Assoc.keys
  obtain ⟨field, unused⟩ := Infinite.exists_notMem_finset used.toFinset
  refine ⟨field, fun entry present => ?_⟩
  rw [unlisted_nil, List.filter_eq_nil_iff]
  intro row rowPresent keyed
  apply unused
  rw [List.mem_toFinset, List.mem_flatMap]
  refine ⟨entry, present, List.mem_flatMap.mpr ⟨row, rowPresent, ?_⟩⟩
  rw [← Assoc.isSome_get?_iff]
  cases found : Assoc.get? row field with
  | none => simp [isKeyed, Row.field, found, Value.isTruthy] at keyed
  | some value => rfl

/-- A row that can be stored nowhere keeps a batch from being taken. -/
theorem isTaken_eq_false_iff (store : Store) (batch : List Row) :
    isTaken store (.ok batch) = false ↔ ∃ row ∈ batch, row.kept? = none := by
  rw [isTaken_ok, List.all_eq_false]
  simp only [Bool.not_eq_true, Option.isSome_eq_false_iff, Option.isNone_iff_eq_none]

/-- Where errors make no difference, the batches with them and without them agree. -/
theorem agree_of_indifferent {errors : List RowError} {rows : List Row}
    (indifferent : Indifferent errors rows) (keyField : String) (store : Store) :
    unlisted [] keyField rows = unlisted errors keyField rows ∨
      isTaken store (.ok (unlisted [] keyField rows)) = false ∧
        isTaken store (.ok (unlisted errors keyField rows)) = false := by
  rcases indifferent keyField with none | ⟨row, present, refused⟩
  · left
    exact (unlisted_eq_iff.mpr none).symm
  · right
    rw [isTaken_eq_false_iff, isTaken_eq_false_iff]
    exact ⟨⟨row, (unlisted_sublist errors keyField rows).mem present, refused⟩,
      ⟨row, present, refused⟩⟩

/-- Under a registry that has a key for one sheet only, an import answers with what comes of that
sheet. -/
theorem answer_keyedBy {request : ImportRequest} {review : WorkbookReview} {form : PostedForm}
    (given : request.rows = some (review.sheetRows form))
    (distinct : (Assoc.keys review.rows).Nodup) (errors : String → List RowError)
    (batches : ∀ registry, request.batches registry = review.rows.map fun entry =>
      .ok (unlisted (errors entry.1) (registry.resolve entry.1).keyField (entry.2.map form.row)))
    {sheet : String} {rows : List Row} (present : (sheet, rows) ∈ review.rows) {unused : String}
    (absent : ∀ entry ∈ review.rows, unlisted [] unused (entry.2.map form.row) = [])
    (keyField : String) (store : Store) :
    let batch := unlisted (errors sheet) keyField (rows.map form.row)
    (importRows request (.keyedBy sheet keyField unused) store).1 =
      if isTaken store (.ok batch) then .ok ⟨batch.length⟩
      else .error (.serverError "Error importing data.") := by
  obtain ⟨before, after, split⟩ := List.append_of_mem present
  have elsewhere : ∀ entry ∈ before ++ after, sheet ≠ entry.1 := by
    intro entry other same
    rw [split, Assoc.keys, List.map_append, List.map_cons, List.nodup_middle,
      ← List.map_append] at distinct
    have repeated : sheet ∈ (before ++ after).map Prod.fst := same ▸ List.mem_map_of_mem other
    exact (List.nodup_cons.mp distinct).1 repeated
  have empty : ∀ entry ∈ before ++ after, unlisted (errors entry.1)
      ((Registry.keyedBy sheet keyField unused).resolve entry.1).keyField
      (entry.2.map form.row) = [] := by
    intro entry other
    have inReview : entry ∈ review.rows := by
      rw [split, List.mem_append, List.mem_cons]
      rcases List.mem_append.mp other with front | back
      · exact .inl front
      · exact .inr (.inr back)
    rw [Registry.keyField_keyedBy, if_neg (elsewhere entry other)]
    have fewer := unlisted_sublist (errors entry.1) unused (entry.2.map form.row)
    rw [absent entry inReview] at fewer
    exact List.sublist_nil.mp fewer
  have shape := batches (.keyedBy sheet keyField unused)
  rw [split, List.map_append, List.map_cons, Registry.keyField_keyedBy, if_pos rfl] at shape
  apply answer_of_only_batch given shape
  · intro other isOther
    obtain ⟨entry, front, rfl⟩ := List.mem_map.mp isOther
    rw [empty entry (List.mem_append_left after front)]
  · intro other isOther
    obtain ⟨entry, back, rfl⟩ := List.mem_map.mp isOther
    rw [empty entry (List.mem_append_right before back)]

/-- When errors never change an answer, they make no difference to the rows of any sheet. -/
theorem indifferent_of_same_answers {whole parts : ImportRequest} {review : WorkbookReview}
    {form : PostedForm} (distinct : (Assoc.keys review.rows).Nodup)
    (wholeGiven : whole.rows = some (review.sheetRows form)) (wholeFree : whole.errors = none)
    (partsGiven : parts.rows = some (review.sheetRows form))
    (partsRecorded : parts.errors = some review.sheetErrors)
    (same : ∀ registry store, importRows whole registry store = importRows parts registry store)
    {entry : String × List Row} (present : entry ∈ review.rows) :
    Indifferent (review.errorsOf entry.1) (entry.2.map form.row) := by
  obtain ⟨unused, absent⟩ := exists_unused_field review form
  intro keyField
  have wholeAnswer := answer_keyedBy wholeGiven distinct (fun _ => [])
    (batches_without_errors wholeGiven wholeFree) present absent keyField .empty
  have partsAnswer := answer_keyedBy partsGiven distinct review.errorsOf
    (batches_with_errors partsGiven partsRecorded) present absent keyField .empty
  rw [same, partsAnswer] at wholeAnswer
  dsimp only at wholeAnswer
  cases taken : isTaken .empty
      (.ok (unlisted (review.errorsOf entry.1) keyField (entry.2.map form.row))) with
  | false =>
    right
    exact (isTaken_eq_false_iff _ _).mp taken
  | true =>
    left
    rw [taken, if_pos rfl] at wholeAnswer
    split at wholeAnswer
    · have sizes := ImportSummary.mk.inj (Except.ok.inj wholeAnswer)
      exact unlisted_eq_iff.mp ((unlisted_sublist _ _ _).eq_of_length sizes)
    · cases wholeAnswer

/-- Where errors make no difference to the rows of any sheet, imports with errors and without them
are the same. -/
theorem same_import_of_indifferent {whole parts : ImportRequest} {review : WorkbookReview}
    {form : PostedForm} (wholeGiven : whole.rows = some (review.sheetRows form))
    (wholeFree : whole.errors = none) (partsGiven : parts.rows = some (review.sheetRows form))
    (partsRecorded : parts.errors = some review.sheetErrors)
    (indifferent : ∀ entry ∈ review.rows,
      Indifferent (review.errorsOf entry.1) (entry.2.map form.row))
    (registry : Registry) (store : Store) :
    importRows whole registry store = importRows parts registry store := by
  apply importRows_congr wholeGiven partsGiven
  rw [batches_without_errors wholeGiven wholeFree, batches_with_errors partsGiven partsRecorded,
    List.forall₂_map_left_iff, List.forall₂_map_right_iff, List.forall₂_same]
  intro entry present
  rcases agree_of_indifferent (indifferent entry present)
    (registry.resolve entry.1).keyField store with same | refused
  · left
    rw [same]
  · right
    exact refused

/-- What comes of a review that is sent back as a whole. It is imported like its rows without any
errors, so that every row with a key value is handed to the store. This is the import of its rows
with its errors, under all registries and for all stores, exactly when the errors make no difference
to the rows of any sheet. -/
theorem importRows_whole_review_iff {site : Site} {file : Option File} {registry : Registry}
    {limit : Int} {now : DateTime} {review : WorkbookReview}
    (uploaded : upload site file registry limit now = .ok review) :
    ∃ whole parts, ImportRequest.read review.toWire = .ok whole ∧
      ImportRequest.read (review.posted .wire) = .ok parts ∧
      (∀ registry store, importRows whole registry store =
        importRows { parts with errors := none } registry store) ∧
      ((∀ registry store,
          importRows whole registry store = importRows parts registry store) ↔
        ∀ entry ∈ review.rows,
          Indifferent (review.errorsOf entry.1) (entry.2.map PostedForm.wire.row)) := by
  obtain ⟨sheets, _, reviewed⟩ := reviewed_of_upload uploaded
  refine ⟨_, _, read_toWire review, read_posted review .wire, fun _ _ => rfl, ?_⟩
  constructor
  · intro same entry present
    exact indifferent_of_same_answers (WorkbookReview.nodup_keys_rows_ofSheets reviewed) rfl rfl
      rfl rfl same present
  · intro indifferent
    exact same_import_of_indifferent rfl rfl rfl rfl indifferent

/-- A sheet of two rows, of which the second has an amount that is too low. -/
def fileWithLowAmount : File :=
  .ofGrids [⟨"S", [[.text "Name", .text "Amount", .text "Date", .text "Verified"],
    [.text "Ann", .int 5, .text "2024-01-15", .text "Yes"],
    [.text "Bob", .int (-1), .text "2024-01-16", .text "No"]]⟩]

/-- A day in the month of the dates of that sheet. -/
def dayOfReview : DateTime := .atMidnight ⟨2024, 1, 20, by decide⟩

/-- A site with a clock of universal time. -/
def siteOfReview : Site := .universal dayOfReview

/-- Whether a sheet of a review has a listed row with a name, and no other row that the store would
refuse. -/
def hasListedName (review : WorkbookReview) : Bool :=
  review.rows.any fun entry =>
    let rows := entry.2.map PostedForm.wire.row
    let errors := review.errorsOf entry.1
    (rows.zipIdx.any fun entry => isListed errors entry.2 && isKeyed "name" entry.1) &&
      (unlisted errors "name" rows).all fun row => row.kept?.isSome

theorem importRows_whole_review_with_low_amount :
    ∃ review whole parts,
      upload siteOfReview (some fileWithLowAmount) .builtin 100000 dayOfReview = .ok review ∧
        ImportRequest.read review.toWire = .ok whole ∧
        ImportRequest.read (review.posted .wire) = .ok parts ∧
        ¬ ∀ registry store, importRows whole registry store = importRows parts registry store := by
  have evaluated : (upload siteOfReview (some fileWithLowAmount) .builtin 100000
      dayOfReview).toOption.any hasListedName = true := by decide +kernel
  obtain ⟨review, answered, listedName⟩ := (Option.any_eq_true _ _).mp evaluated
  have uploaded := Outcome.eq_ok_of_toOption answered
  obtain ⟨whole, parts, wholeRead, partsRead, _, sameIff⟩ := importRows_whole_review_iff uploaded
  refine ⟨review, whole, parts, uploaded, wholeRead, partsRead, fun same => ?_⟩
  obtain ⟨entry, present, found⟩ := List.any_eq_true.mp listedName
  rw [Bool.and_eq_true] at found
  rcases sameIff.mp same entry present "name" with free | ⟨row, kept, refused⟩
  · obtain ⟨place, inRows, listedKey⟩ := List.any_eq_true.mp found.1
    rw [Bool.and_eq_true] at listedKey
    have unkeyed := free place inRows listedKey.1
    rw [listedKey.2] at unkeyed
    cases unkeyed
  · have storable := List.all_eq_true.mp found.2 row kept
    rw [refused] at storable
    cases storable

end Service

end SheetIntake
