import Mathlib.Data.List.Nodup
import SheetIntake.Proofs.Row.Clean
import SheetIntake.Proofs.Service.Repost
import SheetIntake.Proofs.Sheet.DataRow

/-!
# Imports of what an upload found

The rows and the errors of an upload are sent back to be imported, so that the rows without errors
are stored. The errors name worksheet rows, but the import takes the index of a row among those that
it is given for its place in the worksheet. Blank rows are not among them, so that after a blank row
the two differ. `Aligned` says for which sheets this makes no difference. For these an import stores
the rows without errors, and for all others it is given other rows than these to store.
-/

namespace SheetIntake

open Calendar Selection Workbook

/-- A row that can be stored has a name. -/
theorem Row.isKeyed_of_kept? {row : Row} {entry : Draft × DateTime}
    (kept : row.kept? = some entry) : isKeyed "name" row = true := by
  obtain ⟨draft, _, read, _, _, _⟩ := Row.kept?_eq_some_iff.mp kept
  obtain ⟨named, present⟩ := Draft.name_of_read read
  rw [isKeyed, named, Value.isTruthy, present]
  rfl

namespace DataRow

variable {site : Site} {now : DateTime} {form : PostedForm}

/-- Whether a data row should be stored: it is clean and has a key value. -/
def isDue (site : Site) (now : DateTime) (entry : DataRow) : Bool :=
  entry.isClean site .builtin now &&
    isKeyed Schema.builtin.keyField (entry.fields site .builtin now)

/-- The fields of a data row as they are sent back. -/
def posted (site : Site) (now : DateTime) (form : PostedForm) (entry : DataRow) : Row :=
  form.row (entry.fields site .builtin now)

/-- Whether an import hands a data row over to the store. -/
def isHandedOver (site : Site) (now : DateTime) (form : PostedForm) : DataRow → Bool :=
  isKept site .builtin now form.row

theorem isHandedOver_eq (site : Site) (now : DateTime) (form : PostedForm) (entry : DataRow) :
    entry.isHandedOver site now form = (entry.isFree site .builtin now &&
      isKeyed Schema.builtin.keyField (entry.posted site now form)) := rfl

/-- Every data row that is sent back with a key value is as clean as the row that its index stands
for. -/
def Aligned (site : Site) (now : DateTime) (form : PostedForm) (rows : List DataRow) : Prop :=
  ∀ entry ∈ rows, isKeyed Schema.builtin.keyField (entry.posted site now form) = true →
    entry.IsAligned site .builtin now

/-- What the record of a data row would hold apart from its identifier. -/
def content? (site : Site) (now : DateTime) (form : PostedForm) (entry : DataRow) : Option Record :=
  (entry.posted site now form).content?

/-- No two data rows would be stored as the same record. -/
def ToldApart (site : Site) (now : DateTime) (form : PostedForm) (rows : List DataRow) : Prop :=
  ∀ first ∈ rows, ∀ second ∈ rows, ∀ content,
    first.content? site now form = some content → second.content? site now form = some content →
      first = second

/-- Where the data rows of every sheet follow its header without a gap, the rows are aligned. -/
theorem aligned_of_consecutive {sheets : List Sheet}
    (consecutive : ∀ entry ∈ ofSheets .builtin sheets,
      entry.row.number = Int.ofNat (entry.index + firstDataRowNumber))
    (now : DateTime) (form : PostedForm) : Aligned site now form (ofSheets .builtin sheets) := by
  intro entry present _
  obtain ⟨sheet, chosen, inSheet⟩ := List.mem_flatMap.mp present
  have inOrder : ∀ other ∈ ofSheet sheet,
      other.row.number = Int.ofNat (other.index + firstDataRowNumber) := by
    intro other inSame
    exact consecutive other (List.mem_flatMap.mpr ⟨sheet, chosen, inSame⟩)
  exact isAligned_of_consecutive inOrder inSheet

/-- A clean data row is stored as the same in either form. -/
theorem exists_kept_of_isClean {entry : DataRow} (sound : entry.row.Sound)
    (clean : entry.isClean site .builtin now = true) :
    ∃ kept, ∀ form, (entry.posted site now form).kept? = some kept := by
  obtain ⟨checked, mapped⟩ := reviewed?_eq_some_iff.mp (isClean_eq_true_iff.mp clean)
  obtain ⟨kept, plainKept, wireKept, _⟩ :=
    kept?_of_clean (isUndefined_namedRow sound.defined) checked mapped
  refine ⟨kept, fun form => ?_⟩
  cases form with
  | plain => exact plainKept
  | wire => exact wireKept

/-- A clean data row has a key value in either form. -/
theorem isKeyed_of_isClean {entry : DataRow} (sound : entry.row.Sound)
    (clean : entry.isClean site .builtin now = true) (form : PostedForm) :
    isKeyed Schema.builtin.keyField (entry.posted site now form) = true := by
  obtain ⟨_, kept⟩ := exists_kept_of_isClean sound clean
  exact Row.isKeyed_of_kept? (kept form)

/-- A data row should be stored exactly when it is clean. -/
theorem isDue_eq_isClean {entry : DataRow} (sound : entry.row.Sound) :
    entry.isDue site now = entry.isClean site .builtin now := by
  rw [isDue]
  cases clean : entry.isClean site .builtin now with
  | false => rfl
  | true => exact isKeyed_of_isClean sound clean .plain

/-- An import is handed the rows that should be stored exactly when the rows are aligned. -/
theorem filter_isHandedOver_eq_iff {rows : List DataRow}
    (sound : ∀ entry ∈ rows, entry.row.Sound) :
    rows.filter (isHandedOver site now form) = rows.filter (isDue site now) ↔
      Aligned site now form rows := by
  constructor
  · intro same entry present keyed
    have handedIffDue : entry ∈ rows.filter (isHandedOver site now form) ↔
        entry ∈ rows.filter (isDue site now) := by rw [same]
    rw [List.mem_filter, List.mem_filter, and_iff_right present, and_iff_right present,
      isDue_eq_isClean (sound entry present), ← Bool.eq_iff_iff] at handedIffDue
    rw [isHandedOver_eq, keyed, Bool.and_true] at handedIffDue
    exact handedIffDue
  · intro aligned
    apply List.filter_congr
    intro entry present
    rw [isDue_eq_isClean (sound entry present), isHandedOver_eq]
    cases keyed : isKeyed Schema.builtin.keyField (entry.posted site now form) with
    | true =>
      rw [Bool.and_true]
      exact aligned entry present keyed
    | false =>
      -- A clean row has a key value in either form, so this one is not due.
      have unclean : entry.isClean site .builtin now = false := by
        by_contra clean
        rw [isKeyed_of_isClean (sound entry present) (Bool.not_eq_false _ ▸ clean)] at keyed
        cases keyed
      rw [unclean, Bool.and_false]

/-- Data rows whose records would have different names are told apart. -/
theorem toldApart_of_names {rows : List DataRow}
    (distinct : (rows.map fun entry => (entry.content? site now form).map Record.name).Nodup) :
    ToldApart site now form rows := by
  intro first firstPresent second secondPresent content firstStored secondStored
  apply List.inj_on_of_nodup_map distinct firstPresent secondPresent
  rw [firstStored, secondStored]

/-- Data rows that are stored have the contents of their records. -/
theorem map_content?_of_stored {first : Nat} {entries : List DataRow} {records : List Record}
    (stored : Record.ofRows? first (entries.map (posted site now form)) = some records) :
    entries.map (content? site now form) =
      records.map fun record => some { record with identifier := 0 } := by
  have contents := Record.contents_ofRows? stored
  rw [List.map_map] at contents
  exact contents

/-- Where data rows are told apart, a row that is stored is in every selection that is stored as the
same records. -/
theorem mem_filter_of_same_records {rows : List DataRow} (apart : ToldApart site now form rows)
    {chosen other : DataRow → Bool} {first : Nat} {records : List Record}
    (chosenStored : Record.ofRows? first ((rows.filter chosen).map (posted site now form)) =
      some records)
    (otherStored : Record.ofRows? first ((rows.filter other).map (posted site now form)) =
      some records)
    {entry : DataRow} (present : entry ∈ rows.filter chosen) : entry ∈ rows.filter other := by
  have inContents :
      entry.content? site now form ∈ (rows.filter chosen).map (content? site now form) :=
    List.mem_map_of_mem present
  have inOther := inContents
  rw [map_content?_of_stored chosenStored] at inContents inOther
  rw [← map_content?_of_stored otherStored] at inOther
  obtain ⟨record, _, stored⟩ := List.mem_map.mp inContents
  obtain ⟨equal, equalPresent, sameContent⟩ := List.mem_map.mp inOther
  have sameRow := apart entry (List.mem_of_mem_filter present) equal
    (List.mem_of_mem_filter equalPresent) _ stored.symm (sameContent.trans stored.symm)
  rw [sameRow]
  exact equalPresent

/-- Where data rows are told apart, selections that are stored as the same records are the same. -/
theorem filter_eq_of_same_records {rows : List DataRow} (apart : ToldApart site now form rows)
    {chosen other : DataRow → Bool} {first : Nat} {records : List Record}
    (chosenStored : Record.ofRows? first ((rows.filter chosen).map (posted site now form)) =
      some records)
    (otherStored : Record.ofRows? first ((rows.filter other).map (posted site now form)) =
      some records) : rows.filter chosen = rows.filter other := by
  apply List.filter_congr
  intro entry present
  have inChosen : entry ∈ rows.filter chosen ↔ chosen entry = true := by
    rw [List.mem_filter, and_iff_right present]
  have inOther : entry ∈ rows.filter other ↔ other entry = true := by
    rw [List.mem_filter, and_iff_right present]
  rw [Bool.eq_iff_iff, ← inChosen, ← inOther]
  constructor
  · exact mem_filter_of_same_records apart chosenStored otherStored
  · exact mem_filter_of_same_records apart otherStored chosenStored

/-- The data rows that should be stored have records, which are the same in either form. -/
theorem exists_records_of_due {rows : List DataRow} (sound : ∀ entry ∈ rows, entry.row.Sound)
    (now : DateTime) (first : Nat) :
    ∃ records, ∀ form,
      Record.ofRows? first ((rows.filter (isDue site now)).map (posted site now form)) =
        some records := by
  have kept : ∀ entry ∈ rows.filter (isDue site now), ∃ kept, ∀ form,
      (entry.posted site now form).kept? = some kept := by
    intro entry present
    obtain ⟨inRows, due⟩ := List.mem_filter.mp present
    rw [isDue_eq_isClean (sound entry inRows)] at due
    exact exists_kept_of_isClean (sound entry inRows) due
  have storable : (Record.ofRows? first
      ((rows.filter (isDue site now)).map (posted site now .plain))).isSome = true := by
    rw [Record.isSome_ofRows?, List.all_map, List.all_eq_true]
    intro entry present
    obtain ⟨held, heldKept⟩ := kept entry present
    rw [Function.comp_apply, heldKept]
    rfl
  obtain ⟨records, stored⟩ := Option.isSome_iff_exists.mp storable
  refine ⟨records, fun form => ?_⟩
  rw [← stored]
  apply Record.ofRows?_congr
  rw [List.map_map, List.map_map]
  apply List.map_congr_left
  intro entry present
  obtain ⟨held, heldKept⟩ := kept entry present
  rw [Function.comp_apply, Function.comp_apply, heldKept, heldKept]

end DataRow

namespace Service

/-- What an import hands over to the store when an upload is sent back. -/
theorem batches_of_reviewed {site : Site} {sheets : List Sheet} {now : DateTime}
    {review : WorkbookReview}
    (reviewed : WorkbookReview.ofSheets site sheets .builtin now = .ok review)
    (distinct : (sheets.map Sheet.name).Nodup) {request : ImportRequest}
    {form : PostedForm} (given : request.rows = some (review.sheetRows form))
    (recorded : request.errors = some review.sheetErrors) :
    request.batches .builtin = ((sheets.filter (Sheet.isComplete .builtin)).map fun sheet =>
      ((DataRow.ofSheet sheet).filter (DataRow.isHandedOver site now form)).map
        (DataRow.posted site now form)).map .ok := by
  obtain ⟨reviews, results, rfl⟩ := WorkbookReview.ofSheets_eq_ok_iff.mp reviewed
  have names := WorkbookReview.names_of_reviews results
  rw [← names] at distinct
  have rows : (reviews.foldl WorkbookReview.add {}).rows =
      (reviews.filter SheetReview.processed).map fun result => (result.name, result.rows) := by
    rw [WorkbookReview.rows_foldl_add distinct (fun _ _ => List.not_mem_nil)]
    rfl
  have kept := DataRow.unlisted_of_reviews results form.row
  have errors : ∀ result ∈ reviews.filter SheetReview.processed,
      (reviews.foldl WorkbookReview.add {}).errorsOf result.name = result.errors := by
    intro result present
    exact WorkbookReview.errorsOf_foldl_add distinct (fun _ _ => rfl)
      (List.mem_of_mem_filter present)
  have handed : ((sheets.filter (Sheet.isComplete .builtin)).map fun sheet =>
      ((DataRow.ofSheet sheet).filter (DataRow.isHandedOver site now form)).map
        (DataRow.posted site now form)) = _ := kept.symm
  rw [batches_with_errors given recorded, rows, handed, List.map_map, List.map_map]
  apply List.map_congr_left
  intro result present
  rw [Function.comp_apply, Function.comp_apply, errors result present]
  rfl

/-- What an import stores when an upload is sent back, if it stores all that it is handed. -/
theorem importRows_of_reviewed {site : Site} {sheets : List Sheet} {now : DateTime}
    {review : WorkbookReview}
    (reviewed : WorkbookReview.ofSheets site sheets .builtin now = .ok review)
    (distinct : (sheets.map Sheet.name).Nodup) {request : ImportRequest}
    {form : PostedForm} (given : request.rows = some (review.sheetRows form))
    (recorded : request.errors = some review.sheetErrors) {store next : Store}
    {summary : ImportSummary} :
    importRows request .builtin store = (.ok summary, next) ↔
      ∃ records, Record.ofRows? store.nextIdentifier
          (((DataRow.ofSheets .builtin sheets).filter (DataRow.isHandedOver site now form)).map
            (DataRow.posted site now form)) = some records ∧
        summary = ⟨records.length⟩ ∧ next = ⟨store.records ++ records⟩ := by
  rw [importRows_eq_ok_iff given (batches_of_reviewed reviewed distinct given recorded),
    DataRow.ofSheets, List.filter_flatMap, List.map_flatMap, List.flatMap_def]

/-- What comes of an upload whose rows and errors are sent back to be imported, in either form.
The import answers exactly when every data row that it hands over can be stored, and then it stores
those. They are the rows without errors that have a key value exactly when the rows are aligned. So
with aligned rows the import answers and stores the rows without errors, in sheet order and in the
order of the worksheets, and without aligned rows it does not, as long as no two data rows would be
stored as the same record. -/
theorem importRows_posted_upload {site : Site} {file : File} {sheets : List Sheet} {limit : Int}
    {now : DateTime} {review : WorkbookReview} (read : file.sheets = .ok sheets)
    (distinct : (sheets.map Sheet.name).Nodup)
    (uploaded : upload site (some file) .builtin limit now = .ok review) (form : PostedForm)
    (store : Store) :
    let rows := DataRow.ofSheets .builtin sheets
    let due := rows.filter (DataRow.isDue site now)
    let handedOver := rows.filter (DataRow.isHandedOver site now form)
    ∃ request records, ImportRequest.read (review.posted form) = .ok request ∧
      Record.ofRows? store.nextIdentifier (due.map (DataRow.fields site .builtin now)) =
        some records ∧
      (∀ summary next, importRows request .builtin store = (.ok summary, next) ↔
        ∃ stored, Record.ofRows? store.nextIdentifier
            (handedOver.map (DataRow.posted site now form)) = some stored ∧
          summary = ⟨stored.length⟩ ∧ next = ⟨store.records ++ stored⟩) ∧
      (handedOver = due ↔ DataRow.Aligned site now form rows) ∧
      (DataRow.Aligned site now form rows →
        importRows request .builtin store =
          (.ok ⟨records.length⟩, ⟨store.records ++ records⟩)) ∧
      (DataRow.ToldApart site now form rows →
        importRows request .builtin store =
          (.ok ⟨records.length⟩, ⟨store.records ++ records⟩) →
        DataRow.Aligned site now form rows) := by
  intro rows due handedOver
  obtain ⟨others, ⟨content, given, othersRead⟩, reviewed⟩ := reviewed_of_upload uploaded
  cases given
  rw [read] at othersRead
  cases othersRead
  have sound : ∀ entry ∈ rows, entry.row.Sound := by
    intro entry present
    obtain ⟨sheet, chosen, inSheet⟩ := List.mem_flatMap.mp present
    exact File.sound_of_mem_sheets read (List.mem_of_mem_filter chosen)
      (DataRow.mem_rows_of_mem_ofSheet inSheet).2
  obtain ⟨records, dueStored⟩ := DataRow.exists_records_of_due sound now store.nextIdentifier
  let request : ImportRequest := ⟨some (review.sheetRows form), none, some review.sheetErrors⟩
  have outcome : ∀ summary next, importRows request .builtin store = (.ok summary, next) ↔
      ∃ stored, Record.ofRows? store.nextIdentifier
          (handedOver.map (DataRow.posted site now form)) = some stored ∧
        summary = ⟨stored.length⟩ ∧ next = ⟨store.records ++ stored⟩ := by
    intro summary next
    exact importRows_of_reviewed reviewed distinct rfl rfl
  have sameIff : handedOver = due ↔ DataRow.Aligned site now form rows :=
    DataRow.filter_isHandedOver_eq_iff sound
  refine ⟨request, records, read_posted review form, dueStored .plain, outcome, sameIff, ?_, ?_⟩
  · intro aligned
    rw [outcome]
    refine ⟨records, ?_, rfl, rfl⟩
    rw [sameIff.mpr aligned]
    exact dueStored form
  · intro apart imported
    -- What was handed over became the records of the due rows, so it was the due rows.
    obtain ⟨stored, handedStored, _, sameStore⟩ := (outcome _ _).mp imported
    have same : records = stored := by
      have sameRecords := congrArg Store.records sameStore
      exact List.append_cancel_left sameRecords
    rw [← same] at handedStored
    have agree : handedOver = due := DataRow.filter_eq_of_same_records apart handedStored
      (dueStored form)
    exact sameIff.mp agree

/-- A sheet with a blank row below the header and a last row whose amount is too low. -/
def fileWithBlankRow : File :=
  .ofGrids [⟨"S", [[.text "Name", .text "Amount", .text "Date", .text "Verified"], [],
    [.text "Ann", .int 5, .text "2024-01-15", .text "Yes"],
    [.text "Bob", .int (-1), .text "2024-01-16", .text "No"]]⟩]

/-- That sheet as it is read. -/
def sheetsWithBlankRow : List Sheet :=
  [⟨"S", [(0, "Name"), (1, "Amount"), (2, "Date"), (3, "Verified")],
    [⟨3, [(0, .text "Ann"), (1, .int 5), (2, .text "2024-01-15"), (3, .text "Yes")]⟩,
      ⟨4, [(0, .text "Bob"), (1, .int (-1)), (2, .text "2024-01-16"), (3, .text "No")]⟩]⟩]

/-- The last day of the month of its dates. -/
def dayOfBlankRow : DateTime := .atMidnight ⟨2024, 1, 31, by decide⟩

/-- A site with a clock of universal time. -/
def siteOfBlankRow : Site := .universal dayOfBlankRow

theorem importRows_posted_upload_with_blank_row :
    ∃ review request records,
      fileWithBlankRow.sheets = .ok sheetsWithBlankRow ∧
        (sheetsWithBlankRow.map Sheet.name).Nodup ∧
        upload siteOfBlankRow (some fileWithBlankRow) .builtin 100000 dayOfBlankRow = .ok review ∧
        ImportRequest.read (review.posted .wire) = .ok request ∧
        Record.ofRows? Store.empty.nextIdentifier
          (((DataRow.ofSheets .builtin sheetsWithBlankRow).filter
              (DataRow.isDue siteOfBlankRow dayOfBlankRow)).map
            (DataRow.fields siteOfBlankRow .builtin dayOfBlankRow)) = some records ∧
        importRows request .builtin .empty ≠ (.ok ⟨records.length⟩, ⟨records⟩) := by
  have evaluated : (upload siteOfBlankRow (some fileWithBlankRow) .builtin 100000
      dayOfBlankRow).toOption.isSome = true := by decide +kernel
  obtain ⟨review, answered⟩ := Option.isSome_iff_exists.mp evaluated
  have uploaded := Outcome.eq_ok_of_toOption answered
  have distinct : (sheetsWithBlankRow.map Sheet.name).Nodup := by decide
  have misplaced : ((DataRow.ofSheets .builtin sheetsWithBlankRow).any fun entry =>
      isKeyed Schema.builtin.keyField (entry.posted siteOfBlankRow dayOfBlankRow .wire) &&
        entry.isFree siteOfBlankRow .builtin dayOfBlankRow &&
        !entry.isClean siteOfBlankRow .builtin dayOfBlankRow) = true := by decide +kernel
  have apart : DataRow.ToldApart siteOfBlankRow dayOfBlankRow .wire
      (DataRow.ofSheets .builtin sheetsWithBlankRow) := by
    apply DataRow.toldApart_of_names
    decide +kernel
  obtain ⟨request, records, requestRead, dueStored, _, _, _, alignedIfImported⟩ :=
    importRows_posted_upload (rfl : fileWithBlankRow.sheets = .ok sheetsWithBlankRow) distinct
      uploaded .wire .empty
  refine ⟨review, request, records, rfl, distinct, uploaded, requestRead, dueStored, ?_⟩
  intro imported
  have aligned := alignedIfImported apart imported
  obtain ⟨entry, present, found⟩ := List.any_eq_true.mp misplaced
  rw [Bool.and_eq_true, Bool.and_eq_true, Bool.not_eq_true'] at found
  obtain ⟨⟨keyed, free⟩, unclean⟩ := found
  have same := aligned entry present keyed
  rw [DataRow.IsAligned, free, unclean] at same
  cases same

end Service

end SheetIntake
