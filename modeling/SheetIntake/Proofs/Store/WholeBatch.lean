import SheetIntake.Proofs.Store.Batch

/-!
# A batch is all or nothing

A batch of rows is stored as a whole, or it is refused and the store stays as it was. Rows are
refused at two stages: first every row has to be a draft, and only then are amounts and dates looked
at. So what is said of a refused batch is about the first row that is no draft, if there is one,
even if a row before it has an amount that is not a number.
-/

namespace SheetIntake

open Calendar

/-- The rows that cannot be stored. -/
inductive Row.Unstorable (row : Row) : Prop
  /-- The row is no draft. -/
  | invalid {faults : List Fault} (read : Draft.read row = .error faults)
  /-- The amount of its draft is not a number. -/
  | uncounted {draft : Draft} (read : Draft.read row = .ok draft)
    (undefined : Decimal.isNotANumber draft.amount = true)
  /-- The date of its draft is no moment. -/
  | undated {draft : Draft} (read : Draft.read row = .ok draft)
    (unknown : draft.date.moment? = none)

/-- Whether faults are those of the first row that is no draft. -/
def FirstFaults (rows : List Row) (faults : List Fault) : Prop :=
  ∃ before row after, rows = before ++ row :: after ∧
    (∀ earlier ∈ before, ∃ draft, Draft.read earlier = .ok draft) ∧ Draft.read row = .error faults

/-- A row that is not kept cannot be stored. -/
theorem Row.kept?_eq_none_iff {row : Row} : row.kept? = none ↔ row.Unstorable := by
  constructor
  · intro lost
    unfold kept? Draft.kept? at lost
    split at lost
    · next draft read =>
      split at lost
      · split at lost
        · next undefined => exact .uncounted read undefined
        · cases lost
      · next unknown => exact .undated read unknown
    · next read => exact .invalid read
  · intro unstorable
    cases kept : row.kept? with
    | none => rfl
    | some entry =>
      obtain ⟨draft, moment, read, dated, counted, _⟩ := Row.kept?_eq_some_iff.mp kept
      cases unstorable with
      | invalid otherwise => simp [read] at otherwise
      | uncounted again undefined =>
        obtain rfl := Except.ok.inj (read.symm.trans again)
        simp [counted] at undefined
      | undated again unknown =>
        obtain rfl := Except.ok.inj (read.symm.trans again)
        simp [dated] at unknown

/-- There are no records for rows exactly when one of them cannot be stored. -/
theorem Record.ofRows?_eq_none_iff (first : Nat) {rows : List Row} :
    ofRows? first rows = none ↔ ∃ row ∈ rows, row.Unstorable := by
  rw [← Option.isNone_iff_eq_none, ← Option.not_isSome, isSome_ofRows?, Bool.not_eq_true',
    List.all_eq_false]
  simp [Row.kept?_eq_none_iff]

namespace Store

theorem readDrafts_eq_error_iff {rows : List Row} {faults : List Fault} :
    readDrafts rows = .error faults ↔ FirstFaults rows faults := by
  rw [readDrafts_eq_mapM]
  exact Outcome.mapM_eq_error_iff

/-- A batch is refused with faults when these are the faults of its first row that is no draft. -/
theorem insertBatch_eq_invalidRecord_iff (store : Store) {rows : List Row} {faults : List Fault} :
    (store.insertBatch rows).1 = .error (.invalidRecord faults) ↔ FirstFaults rows faults := by
  rw [← readDrafts_eq_error_iff]
  unfold insertBatch addBatch
  cases readDrafts rows with
  | error others => simp
  | ok drafts =>
    dsimp only
    cases (datedDrafts drafts).bind store.addAll <;> simp

/-- A batch is all or nothing. Either it is stored, and the store has one more record for each row,
in row order and under the next identifiers, which are above all that are taken. Or it is refused,
and the store is as before. It is refused exactly when some row cannot be stored: when the row is no
draft, when its amount is not a number, or when its date is no moment. If some row is no draft, the
faults are those of the first such row, whatever the amounts and dates of the others. -/
theorem insertBatch_all_or_nothing (store : Store) (rows : List Row) :
    (∃ records, store.insertBatch rows = (.ok rows.length, ⟨store.records ++ records⟩) ∧
        List.Forall₂ Record.IsOf records rows ∧
        records.map Record.identifier = List.range' store.nextIdentifier rows.length ∧
        (∀ record ∈ store.records, record.identifier < store.nextIdentifier) ∧
        ¬ ∃ row ∈ rows, row.Unstorable) ∨
      ∃ failure, store.insertBatch rows = (.error failure, store) ∧
        (∃ row ∈ rows, row.Unstorable) ∧
        ∀ faults, failure = .invalidRecord faults ↔ FirstFaults rows faults := by
  cases stored : Record.ofRows? store.nextIdentifier rows with
  | some records =>
    refine .inl ⟨records, insertBatch_of_stored stored, Record.forall₂_isOf stored, ?_, ?_, ?_⟩
    · rw [Record.identifiers_ofRows? stored, Record.length_ofRows? stored]
    · exact fun record present => lt_nextIdentifier present
    · rw [← Record.ofRows?_eq_none_iff store.nextIdentifier, stored]
      exact Option.some_ne_none records
  | none =>
    obtain ⟨failure, refused⟩ := insertBatch_of_refused stored
    refine .inr ⟨failure, refused, (Record.ofRows?_eq_none_iff _).mp stored, fun faults => ?_⟩
    rw [← insertBatch_eq_invalidRecord_iff store, refused, Except.error.injEq]

/-- A row whose date is no moment. -/
def rowWithoutMoment : Row :=
  [("name", .text "Ann"), ("amount", .float 5.0), ("date", .stamp none),
    ("verified", .text "Yes")]

/-- A batch is refused although each of its rows is a draft with a number for its amount. -/
theorem insertBatch_refuses_counted_draft :
    (∃ failure, (Store.empty.insertBatch [rowWithoutMoment]).1 = .error failure) ∧
      ¬ ∃ row ∈ [rowWithoutMoment], (∃ faults, Draft.read row = .error faults) ∨
        ∃ draft, Draft.read row = .ok draft ∧ Decimal.isNotANumber draft.amount = true := by
  have read : Draft.read rowWithoutMoment = .ok ⟨"Ann", 5.0, .stamp none, .yes⟩ := rfl
  refine ⟨⟨_, rfl⟩, ?_⟩
  rintro ⟨row, present, unfit⟩
  obtain rfl := List.mem_singleton.mp present
  rcases unfit with ⟨faults, invalid⟩ | ⟨draft, again, undefined⟩
  · simp [read] at invalid
  · obtain rfl := Except.ok.inj (read.symm.trans again)
    exact absurd undefined (by decide)

end Store

end SheetIntake
