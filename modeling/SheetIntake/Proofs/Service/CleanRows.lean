import SheetIntake.Proofs.Row.Readable
import SheetIntake.Proofs.Service.Alignment

/-!
# Clean rows are stored

Rows are checked by the rules of a schema and stored by the rules of a draft, and the two sets of
rules are written apart. Under the built-in schema the second let pass whatever the first does: a
row without errors is mapped, and its fields are stored whether they are sent back as they are or in
wire form. `posted_of_clean` says so of one row; since a batch is taken when each of its rows is,
the rest follows for a list of rows, each sent back in either form.
-/

namespace SheetIntake.Service

open Calendar Selection

variable {site : Site}

/-- Whether a row is what is sent back for some fields, in one form or the other. -/
def PostedAs (fields posted : Row) : Prop :=
  ∃ form : PostedForm, posted = form.row fields

/-- Whether the record of a row shows another row, whatever number it is stored under. -/
def StoredAs (site : Site) (row posted : Row) : Prop :=
  ∃ entry, posted.kept? = some entry ∧
    ∀ identifier, (Record.ofDraft identifier entry.1 entry.2).Shows site row

/-- A row without errors is mapped, and what is sent back for it is stored as it. -/
theorem posted_of_clean {row : Row} {number : Int} {now : DateTime} (positive : 1 ≤ number)
    (defined : ∀ cell ∈ row, cell.2.isUndefined = false)
    (clean : checkRow site row .builtin number now = .ok []) :
    ∃ fields, mapRow site row .builtin = .ok fields ∧
      ∀ posted, PostedAs fields posted → StoredAs site row posted := by
  have columnsDefined : ∀ column, (row.field column).isUndefined = false := by
    intro column
    rw [Row.field]
    cases found : Assoc.get? row column with
    | none => rfl
    | some value => exact defined (column, value) (Assoc.mem_of_get? found)
  obtain ⟨fields, mapped⟩ := mapRow_answers_of_checkRow positive clean
  obtain ⟨entry, plain, wire, shows⟩ := kept?_of_clean columnsDefined clean mapped
  refine ⟨fields, mapped, ?_⟩
  rintro posted ⟨form, rfl⟩
  refine ⟨entry, ?_, shows⟩
  cases form with
  | plain => exact plain
  | wire => exact wire

/-- Rows without errors are mapped, and what is sent back for them is stored as them. -/
theorem posted_of_clean_rows {rows : List Row} {now : DateTime}
    (defined : ∀ row ∈ rows, ∀ cell ∈ row, cell.2.isUndefined = false)
    (clean : ∀ row ∈ rows, ∃ number : Int, 1 ≤ number ∧
      checkRow site row .builtin number now = .ok []) :
    ∃ mapped, (rows.mapM fun row => mapRow site row .builtin) = .ok mapped ∧
      ∀ posted, List.Forall₂ PostedAs mapped posted → List.Forall₂ (StoredAs site) rows posted := by
  induction rows with
  | nil =>
    refine ⟨[], rfl, ?_⟩
    intro posted all
    cases all
    exact .nil
  | cons row rest inductionHypothesis =>
    obtain ⟨rowDefined, restDefined⟩ := List.forall_mem_cons.mp defined
    obtain ⟨⟨number, positive, rowClean⟩, restClean⟩ := List.forall_mem_cons.mp clean
    obtain ⟨fields, mapped, rowPosted⟩ := posted_of_clean positive rowDefined rowClean
    obtain ⟨others, othersMapped, restPosted⟩ := inductionHypothesis restDefined restClean
    refine ⟨fields :: others, Outcome.mapM_cons_eq_ok_iff.mpr
      ⟨fields, others, mapped, othersMapped, rfl⟩, ?_⟩
    intro posted all
    cases all with
    | cons here later => exact .cons (rowPosted _ here) (restPosted _ later)

/-- Rows that are stored as others have records that show the others. -/
theorem exists_records_of_storedAs {rows posted : List Row}
    (stored : List.Forall₂ (StoredAs site) rows posted) (first : Nat) :
    ∃ records, Record.ofRows? first posted = some records ∧
      List.Forall₂ (Record.Shows site) records rows := by
  induction stored generalizing first with
  | nil => exact ⟨[], rfl, .nil⟩
  | cons here _ inductionHypothesis =>
    obtain ⟨entry, kept, shows⟩ := here
    obtain ⟨others, othersStored, othersShow⟩ := inductionHypothesis (first + 1)
    exact ⟨_, Record.ofRows?_cons kept othersStored, .cons (shows first) othersShow⟩

/-- A selection without recorded errors keeps rows with a key value. -/
theorem ofSheet_of_keyed {keyField : String} {rows : List Row}
    (keyed : ∀ row ∈ rows, isKeyed keyField row = true) : ofSheet rows [] keyField = .ok rows := by
  have noErrors : ([] : List ErrorEntry).map ErrorEntry.row =
      ([] : List RowError).map fun error => .int error.row := rfl
  rw [ofSheet_of_errors noErrors, unlisted_nil, List.filter_eq_self.mpr keyed]

/-- Rows without errors are stored, whatever is in the store. Each of them is mapped to fields. What
is sent back for these, as they are or in wire form, has a key value and is a draft, so a selection
keeps all of it; and as a batch it adds one record for each row, which shows what the row holds. -/
theorem clean_rows_are_stored {rows : List Row} {now : DateTime}
    (defined : ∀ row ∈ rows, ∀ cell ∈ row, cell.2.isUndefined = false)
    (clean : ∀ row ∈ rows, ∃ number : Int, 1 ≤ number ∧
      checkRow site row .builtin number now = .ok []) :
    ∃ mapped, (rows.mapM fun row => mapRow site row .builtin) = .ok mapped ∧
      ∀ posted, List.Forall₂ PostedAs mapped posted →
        (∀ row ∈ posted, (row.field Schema.builtin.keyField).isTruthy = true ∧
          ∃ draft, Draft.read row = .ok draft) ∧
        ofSheet posted [] Schema.builtin.keyField = .ok posted ∧
        ∀ store : Store, ∃ records,
          store.insertBatch posted = (.ok rows.length, ⟨store.records ++ records⟩) ∧
            List.Forall₂ (Record.Shows site) records rows := by
  obtain ⟨mapped, answered, posts⟩ := posted_of_clean_rows defined clean
  refine ⟨mapped, answered, ?_⟩
  intro posted all
  have stored := posts posted all
  have keptEach : ∀ row ∈ posted, ∃ entry, row.kept? = some entry := by
    intro row present
    obtain ⟨_, _, entry, kept, _⟩ := Outcome.exists_matched_of_mem stored.flip present
    exact ⟨entry, kept⟩
  have keyed : ∀ row ∈ posted, isKeyed Schema.builtin.keyField row = true := by
    intro row present
    obtain ⟨entry, kept⟩ := keptEach row present
    exact Row.isKeyed_of_kept? kept
  refine ⟨fun row present => ⟨keyed row present, ?_⟩, ofSheet_of_keyed keyed, fun store => ?_⟩
  · obtain ⟨entry, kept⟩ := keptEach row present
    obtain ⟨draft, _, read, _, _, _⟩ := Row.kept?_eq_some_iff.mp kept
    exact ⟨draft, read⟩
  · obtain ⟨records, recorded, shows⟩ := exists_records_of_storedAs stored store.nextIdentifier
    rw [stored.length_eq]
    exact ⟨records, Store.insertBatch_of_stored recorded, shows⟩

/-- The day on which two rows are checked. -/
def dayOfTwoRows : DateTime := .atMidnight ⟨2024, 1, 21, by decide⟩

/-- Two rows without errors: one all of texts and with a blank mark, the other of numbers and dates
and with a column that has no rule. -/
def twoCleanRows : List Row :=
  [[("Name", .text "Ann"), ("Amount", .text " 12.5 "), ("Date", .text "2024-01-15T10:00:00"),
      ("Verified", .text "")],
    [("Name", .text "Bob"), ("Amount", .int 5), ("Date", .date ⟨2024, 1, 16, by decide⟩),
      ("Verified", .text "Yes"), ("Note", .null)]]

/-- A site with a clock of universal time. -/
def siteOfTwoRows : Site := .universal dayOfTwoRows

theorem clean_rows_are_stored_in_wire_form :
    (∀ row ∈ twoCleanRows, ∀ cell ∈ row, cell.2.isUndefined = false) ∧
      (∀ row ∈ twoCleanRows, ∃ number : Int, 1 ≤ number ∧
        checkRow siteOfTwoRows row .builtin number dayOfTwoRows = .ok []) ∧
      ∃ mapped, (twoCleanRows.mapM fun row => mapRow siteOfTwoRows row .builtin) = .ok mapped ∧
        ∃ records, Store.empty.insertBatch (mapped.map PostedForm.wire.row) = (.ok 2, ⟨records⟩) ∧
          List.Forall₂ (Record.Shows siteOfTwoRows) records twoCleanRows := by
  have defined : ∀ row ∈ twoCleanRows, ∀ cell ∈ row, cell.2.isUndefined = false := by decide
  have clean : ∀ row ∈ twoCleanRows, ∃ number : Int, 1 ≤ number ∧
      checkRow siteOfTwoRows row .builtin number dayOfTwoRows = .ok [] := by
    have each : ∀ row ∈ twoCleanRows,
        checkRow siteOfTwoRows row .builtin 2 dayOfTwoRows = .ok [] := by decide
    exact fun row present => ⟨2, by decide, each row present⟩
  obtain ⟨mapped, answered, posts⟩ := clean_rows_are_stored defined clean
  have inWireForm : List.Forall₂ PostedAs mapped (mapped.map PostedForm.wire.row) := by
    rw [List.forall₂_map_right_iff, List.forall₂_same]
    exact fun fields _ => ⟨.wire, rfl⟩
  obtain ⟨_, _, stores⟩ := posts _ inWireForm
  exact ⟨defined, clean, mapped, answered, stores .empty⟩

end SheetIntake.Service
