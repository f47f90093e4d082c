import SheetIntake.Proofs.Outcome
import SheetIntake.Sheet.Selection

/-!
# What a selection keeps

A selection counts the rows that it is given, and takes the row at an index for the data row that
many places after the first. `unlisted` says which rows it keeps when what is recorded are errors of
rows: those with a value in the key field whose place no error names. Errors name worksheet rows, so
that place and row agree only while no row in between is left out.
-/

namespace SheetIntake.Selection

/-- Whether errors name the row that the index of a row stands for. -/
def isListed (errors : List RowError) (index : Nat) : Bool :=
  errors.any fun error => error.row == index + firstDataRowNumber

/-- Whether a row has a value in the key field. -/
def isKeyed (keyField : String) (row : Row) : Bool :=
  (row.field keyField).isTruthy

/-- Whether a row at its index has a key value and no error that stands for the index. -/
def isUnlisted (errors : List RowError) (keyField : String) (entry : Row × Nat) : Bool :=
  !isListed errors entry.2 && isKeyed keyField entry.1

/-- The rows with a key value whose index no error stands for. -/
def unlisted (errors : List RowError) (keyField : String) (rows : List Row) : List Row :=
  (rows.zipIdx.filter (isUnlisted errors keyField)).map Prod.fst

theorem isListed_eq_true_iff {errors : List RowError} {index : Nat} :
    isListed errors index = true ↔ ∃ error ∈ errors, error.row = index + firstDataRowNumber := by
  simp [isListed]

/-- Rows are kept by their index and by what they hold, in their order. -/
theorem importableFrom_eq_map_filter (named : List Value) (keyField : String) (index : Nat)
    (rows : List Row) :
    importableFrom named keyField index rows =
      ((rows.zipIdx index).filter fun entry => isImportable named keyField entry.2 entry.1).map
        Prod.fst := by
  induction rows generalizing index with
  | nil => rfl
  | cons row rest inductionHypothesis =>
    rw [importableFrom, List.zipIdx_cons, List.filter_cons, inductionHypothesis]
    split
    · rfl
    · rfl

/-- Among the numbers of rows that have errors, the one of an index is found when an error names
it. -/
theorem isImportable_of_errors (errors : List RowError) (keyField : String) (index : Nat)
    (row : Row) :
    isImportable (errors.map fun error => .int error.row) keyField index row =
      isUnlisted errors keyField (row, index) := by
  have named : ((errors.map fun error => Value.int error.row).any fun value =>
      value.equalsInteger (Int.ofNat (index + firstDataRowNumber))) = isListed errors index := by
    rw [List.any_map, isListed]
    congr 1
    funext error
    rw [Function.comp_apply, Value.equalsInteger, Bool.eq_iff_iff, beq_iff_eq, beq_iff_eq]
    exact Int.ofNat_inj
  rw [isImportable, named, isUnlisted, isKeyed]

/-- When the recorded errors name the rows of errors, the selection succeeds and keeps the rows that
are not listed. -/
theorem ofSheet_of_errors {recorded : List ErrorEntry} {errors : List RowError}
    (names : recorded.map ErrorEntry.row = errors.map fun error => .int error.row)
    (keyField : String) (rows : List Row) :
    ofSheet rows recorded keyField = .ok (unlisted errors keyField rows) := by
  have collectable : ∀ entry ∈ recorded, entry.row.isCollectable = true := by
    intro entry present
    have named : entry.row ∈ errors.map fun error => Value.int error.row := by
      rw [← names]
      exact List.mem_map_of_mem present
    obtain ⟨error, _, equal⟩ := List.mem_map.mp named
    rw [← equal]
    rfl
  have rowsNamed : errorRows recorded = .ok (errors.map fun error => .int error.row) := by
    rw [← names]
    apply Outcome.mapM_eq_ok_map
    intro entry present
    rw [if_pos (collectable entry present)]
  rw [ofSheet, rowsNamed]
  simp only [bind, Except.bind, pure, Except.pure, importableFrom_eq_map_filter,
    isImportable_of_errors, unlisted]

@[simp] theorem isUnlisted_nil (keyField : String) (entry : Row × Nat) :
    isUnlisted [] keyField entry = isKeyed keyField entry.1 := rfl

theorem isKeyed_of_isUnlisted {errors : List RowError} {keyField : String} {entry : Row × Nat}
    (unlisted : isUnlisted errors keyField entry = true) : isKeyed keyField entry.1 = true := by
  rw [isUnlisted, Bool.and_eq_true] at unlisted
  exact unlisted.2

/-- Without errors every row with a key value is kept. -/
theorem unlisted_nil (keyField : String) (rows : List Row) :
    unlisted [] keyField rows = rows.filter (isKeyed keyField) := by
  have everyRow : isUnlisted [] keyField = isKeyed keyField ∘ Prod.fst := by
    funext entry
    exact isUnlisted_nil keyField entry
  rw [unlisted, everyRow, ← List.filter_map, List.zipIdx_map_fst]

/-- Errors take rows away and leave the others in their order. -/
theorem filter_isUnlisted_sublist (errors : List RowError) (keyField : String)
    (entries : List (Row × Nat)) :
    (entries.filter (isUnlisted errors keyField)).Sublist
      (entries.filter (isUnlisted [] keyField)) := by
  apply List.monotone_filter_right
  intro entry kept
  rw [isUnlisted_nil]
  exact isKeyed_of_isUnlisted kept

theorem unlisted_sublist (errors : List RowError) (keyField : String) (rows : List Row) :
    (unlisted errors keyField rows).Sublist (unlisted [] keyField rows) :=
  (filter_isUnlisted_sublist errors keyField rows.zipIdx).map Prod.fst

/-- Errors take no row away exactly when they list none with a key value. -/
theorem unlisted_eq_iff {errors : List RowError} {keyField : String} {rows : List Row} :
    unlisted errors keyField rows = unlisted [] keyField rows ↔
      ∀ entry ∈ rows.zipIdx, isListed errors entry.2 = true → isKeyed keyField entry.1 = false := by
  constructor
  · intro same entry present listed
    have equal := (filter_isUnlisted_sublist errors keyField rows.zipIdx).eq_of_length (by
      simpa only [unlisted, List.length_map] using congrArg List.length same)
    by_contra isKey
    have kept : entry ∈ rows.zipIdx.filter (isUnlisted [] keyField) := by
      rw [List.mem_filter, isUnlisted_nil]
      exact ⟨present, by simpa using isKey⟩
    rw [← equal, List.mem_filter, isUnlisted, listed] at kept
    exact Bool.false_ne_true kept.2
  · intro none
    have same : rows.zipIdx.filter (isUnlisted errors keyField) =
        rows.zipIdx.filter (isUnlisted [] keyField) := by
      apply List.filter_congr
      intro entry present
      rw [isUnlisted_nil, isUnlisted]
      cases listed : isListed errors entry.2 with
      | false => rfl
      | true => rw [none entry present listed, Bool.and_false]
    rw [unlisted, same, unlisted]

end SheetIntake.Selection
