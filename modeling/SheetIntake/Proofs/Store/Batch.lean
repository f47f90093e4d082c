import SheetIntake.Proofs.Outcome
import SheetIntake.Store.Batch

/-!
# What a batch stores

Storing a batch goes over its rows three times: all rows are read as drafts, then all dates are
looked at, and then the records are added one after the other. `addBatch_eq_ok_iff` says the same in
one pass. A batch that is taken adds one record for each row, in row order and under the next free
identifiers (`Record.forall₂_isOf`), and it is taken exactly when each of its rows could be stored
alone. So whether a batch is taken does not depend on what the store holds.
-/

namespace SheetIntake

open Calendar

/-- What is kept of a draft: the draft, and what the clock of its date shows. A draft whose date is
no moment or whose amount is not a number is not kept. -/
def Draft.kept? (draft : Draft) : Option (Draft × DateTime) :=
  match draft.date.moment? with
  | some moment =>
    if Decimal.isNotANumber draft.amount then none else some (draft, moment.clock)
  | none => none

/-- What is kept of a row, if the row can be stored. -/
def Row.kept? (row : Row) : Option (Draft × DateTime) :=
  match Draft.read row with
  | .ok draft => draft.kept?
  | .error _ => none

/-- What the record of a row holds apart from its identifier, if the row can be stored. -/
def Row.content? (row : Row) : Option Record :=
  row.kept?.map fun entry => .ofDraft 0 entry.1 entry.2

namespace Record

/-- Whether a record is that of a row: it holds the draft of the row, whose amount is a number, and
what the clock of its date shows, under an identifier of its own. -/
def IsOf (record : Record) (row : Row) : Prop :=
  ∃ draft moment, Draft.read row = .ok draft ∧ draft.date.moment? = some moment ∧
    Decimal.isNotANumber draft.amount = false ∧
    record = .ofDraft record.identifier draft moment.clock

/-- The records of what is kept, with identifiers from a first one on. -/
def numbered : Nat → List (Draft × DateTime) → List Record
  | _, [] => []
  | first, (draft, date) :: rest => .ofDraft first draft date :: numbered (first + 1) rest

/-- The records of rows, with identifiers from a first one on, if every row can be stored. -/
def ofRows? (first : Nat) (rows : List Row) : Option (List Record) :=
  (rows.mapM Row.kept?).map (numbered first)

@[simp] theorem length_numbered (first : Nat) (entries : List (Draft × DateTime)) :
    (numbered first entries).length = entries.length := by
  induction entries generalizing first with
  | nil => rfl
  | cons entry rest inductionHypothesis => simp [numbered, inductionHypothesis]

/-- The records are numbered one after the other. -/
theorem identifiers_numbered (first : Nat) (entries : List (Draft × DateTime)) :
    (numbered first entries).map identifier = List.range' first entries.length := by
  induction entries generalizing first with
  | nil => rfl
  | cons entry rest inductionHypothesis =>
    simp [numbered, ofDraft, inductionHypothesis, List.range'_succ]

theorem numbered_append (first : Nat) (entries more : List (Draft × DateTime)) :
    numbered first (entries ++ more) =
      numbered first entries ++ numbered (first + entries.length) more := by
  induction entries generalizing first with
  | nil => simp [numbered]
  | cons entry rest inductionHypothesis =>
    have shifted : first + 1 + rest.length = first + (rest.length + 1) := by omega
    simp [numbered, inductionHypothesis, shifted]

end Record

namespace Row

/-- A row is kept when it is a draft whose date is known and whose amount is a number. -/
theorem kept?_eq_some_iff {row : Row} {entry : Draft × DateTime} :
    row.kept? = some entry ↔
      ∃ draft moment, Draft.read row = .ok draft ∧ draft.date.moment? = some moment ∧
        Decimal.isNotANumber draft.amount = false ∧ entry = (draft, moment.clock) := by
  unfold kept? Draft.kept?
  cases Draft.read row with
  | error faults => simp
  | ok draft =>
    cases dated : draft.date.moment? with
    | none => simp [dated]
    | some moment =>
      cases known : Decimal.isNotANumber draft.amount with
      | true => simp [dated, known]
      | false => simp [dated, known, eq_comm (b := entry)]

theorem keptAll_cons (row : Row) (rest : List Row) :
    (row :: rest).mapM kept? = row.kept?.bind fun entry =>
      (rest.mapM kept?).map fun entries => entry :: entries := by
  rw [List.mapM_cons]
  cases row.kept? <;> cases rest.mapM kept? <;> rfl

/-- All rows of a list are kept exactly when each of them is. -/
theorem isSome_keptAll (rows : List Row) :
    (rows.mapM kept?).isSome = rows.all fun row => row.kept?.isSome := by
  induction rows with
  | nil => rfl
  | cons row rest inductionHypothesis =>
    rw [keptAll_cons, List.all_cons, ← inductionHypothesis]
    cases row.kept? <;> simp

/-- One thing is kept for each row. -/
theorem length_keptAll {rows : List Row} {entries : List (Draft × DateTime)}
    (kept : rows.mapM kept? = some entries) : entries.length = rows.length := by
  induction rows generalizing entries with
  | nil => simp_all
  | cons row rest inductionHypothesis =>
    rw [keptAll_cons] at kept
    obtain ⟨entry, _, restKept⟩ := Option.bind_eq_some_iff.mp kept
    obtain ⟨others, othersKept, rfl⟩ := Option.map_eq_some_iff.mp restKept
    simp [inductionHypothesis othersKept]

end Row

namespace Record

/-- There are records for rows exactly when every row can be stored, whatever their numbers. -/
theorem isSome_ofRows? (first : Nat) (rows : List Row) :
    (ofRows? first rows).isSome = rows.all fun row => row.kept?.isSome := by
  simp [ofRows?, Row.isSome_keptAll]

/-- The records of two lists of rows together are those of the first and, numbered after them, those
of the second. -/
theorem ofRows?_append {first : Nat} {rows more : List Row} {records others : List Record}
    (stored : ofRows? first rows = some records)
    (alsoStored : ofRows? (first + rows.length) more = some others) :
    ofRows? first (rows ++ more) = some (records ++ others) := by
  obtain ⟨entries, kept, rfl⟩ := Option.map_eq_some_iff.mp stored
  obtain ⟨others, othersKept, rfl⟩ := Option.map_eq_some_iff.mp alsoStored
  rw [ofRows?, List.mapM_append, kept, othersKept]
  simp [numbered_append, Row.length_keptAll kept]

/-- The record of one more row in front takes the first identifier. -/
theorem ofRows?_cons {first : Nat} {row : Row} {rest : List Row} {entry : Draft × DateTime}
    {records : List Record} (kept : row.kept? = some entry)
    (restStored : ofRows? (first + 1) rest = some records) :
    ofRows? first (row :: rest) = some (.ofDraft first entry.1 entry.2 :: records) := by
  obtain ⟨others, othersKept, rfl⟩ := Option.map_eq_some_iff.mp restStored
  rw [ofRows?, Row.keptAll_cons, kept, Option.bind_some, othersKept]
  rfl

/-- The records of rows are those of the rows one by one. -/
theorem forall₂_isOf {first : Nat} {rows : List Row} {records : List Record}
    (stored : ofRows? first rows = some records) : List.Forall₂ IsOf records rows := by
  induction rows generalizing first records with
  | nil =>
    cases stored
    exact .nil
  | cons row rest inductionHypothesis =>
    obtain ⟨entries, kept, rfl⟩ := Option.map_eq_some_iff.mp stored
    rw [Row.keptAll_cons] at kept
    obtain ⟨entry, rowKept, restKept⟩ := Option.bind_eq_some_iff.mp kept
    obtain ⟨others, othersKept, rfl⟩ := Option.map_eq_some_iff.mp restKept
    have restStored : ofRows? (first + 1) rest = some (numbered (first + 1) others) := by
      rw [ofRows?, othersKept, Option.map_some]
    refine .cons ?_ (inductionHypothesis restStored)
    obtain ⟨draft, moment, read, dated, known, rfl⟩ := Row.kept?_eq_some_iff.mp rowKept
    exact ⟨draft, moment, read, dated, known, rfl⟩

theorem length_ofRows? {first : Nat} {rows : List Row} {records : List Record}
    (stored : ofRows? first rows = some records) : records.length = rows.length :=
  (forall₂_isOf stored).length_eq

/-- Rows of which the same is kept have the same records. -/
theorem ofRows?_congr {rows others : List Row} (same : rows.map Row.kept? = others.map Row.kept?)
    (first : Nat) : ofRows? first rows = ofRows? first others := by
  have keptAll : ∀ rows : List Row, rows.mapM Row.kept? = (rows.map Row.kept?).mapM id := by
    intro rows
    rw [List.mapM_map]
    rfl
  rw [ofRows?, ofRows?, keptAll rows, keptAll others, same]

/-- The record of a row has the same content as the row. -/
theorem IsOf.content?_eq {record : Record} {row : Row} (isOf : record.IsOf row) :
    row.content? = some { record with identifier := 0 } := by
  obtain ⟨draft, moment, read, dated, known, equal⟩ := isOf
  have kept := Row.kept?_eq_some_iff.mpr ⟨draft, moment, read, dated, known, rfl⟩
  rw [Row.content?, kept, equal]
  rfl

/-- Stored rows have the same content as their records. -/
theorem contents_ofRows? {first : Nat} {rows : List Row} {records : List Record}
    (stored : ofRows? first rows = some records) :
    rows.map Row.content? = records.map fun record => some { record with identifier := 0 } := by
  rw [← List.forall₂_eq_eq_eq, List.forall₂_map_left_iff, List.forall₂_map_right_iff]
  exact (forall₂_isOf stored).flip.imp fun _ _ => IsOf.content?_eq

theorem identifiers_ofRows? {first : Nat} {rows : List Row} {records : List Record}
    (stored : ofRows? first rows = some records) :
    records.map identifier = List.range' first records.length := by
  obtain ⟨entries, _, rfl⟩ := Option.map_eq_some_iff.mp stored
  rw [identifiers_numbered, length_numbered]

end Record

namespace Store

private theorem foldl_max_range' (greatest count : Nat) :
    (List.range' (greatest + 1) count).foldl max greatest = greatest + count := by
  induction count generalizing greatest with
  | zero => rfl
  | succ count inductionHypothesis =>
    have larger : max greatest (greatest + 1) = greatest + 1 := by omega
    rw [List.range'_succ, List.foldl_cons, larger, inductionHypothesis]
    omega

private theorem le_foldl_max (numbers : List Nat) (least : Nat) :
    least ≤ numbers.foldl max least ∧ ∀ number ∈ numbers, number ≤ numbers.foldl max least := by
  induction numbers generalizing least with
  | nil => exact ⟨Nat.le_refl _, fun _ none => nomatch none⟩
  | cons first rest inductionHypothesis =>
    obtain ⟨fromStart, each⟩ := inductionHypothesis (max least first)
    refine ⟨Nat.le_trans (Nat.le_max_left least first) fromStart, ?_⟩
    exact List.forall_mem_cons.mpr ⟨Nat.le_trans (Nat.le_max_right least first) fromStart, each⟩

/-- The next free identifier is above all that are taken. -/
theorem lt_nextIdentifier {store : Store} {record : Record} (present : record ∈ store.records) :
    record.identifier < store.nextIdentifier :=
  Nat.lt_succ_of_le ((le_foldl_max _ 0).2 _ (List.mem_map_of_mem present))

/-- Records that are numbered from the next free identifier on leave the one after them free. -/
theorem nextIdentifier_append {store : Store} {records : List Record}
    (numbered : records.map Record.identifier =
      List.range' store.nextIdentifier records.length) :
    nextIdentifier ⟨store.records ++ records⟩ = store.nextIdentifier + records.length := by
  have shape : nextIdentifier ⟨store.records ++ records⟩ =
      (records.map Record.identifier).foldl max
        ((store.records.map Record.identifier).foldl max 0) + 1 := by
    simp [nextIdentifier]
  rw [shape, numbered, nextIdentifier, foldl_max_range']
  omega

theorem nextIdentifier_numbered (store : Store) (entries : List (Draft × DateTime)) :
    nextIdentifier ⟨store.records ++ Record.numbered store.nextIdentifier entries⟩ =
      store.nextIdentifier + entries.length := by
  have consecutive : (Record.numbered store.nextIdentifier entries).map Record.identifier =
      List.range' store.nextIdentifier
        (Record.numbered store.nextIdentifier entries).length := by
    rw [Record.identifiers_numbered, Record.length_numbered]
  rw [nextIdentifier_append consecutive, Record.length_numbered]

/-- Records are added to the end one by one unless an amount is not a number. -/
theorem addAll_eq_ok_iff {store next : Store} {entries : List (Draft × DateTime)} :
    store.addAll entries = .ok next ↔
      (∀ entry ∈ entries, Decimal.isNotANumber entry.1.amount = false) ∧
        next = ⟨store.records ++ Record.numbered store.nextIdentifier entries⟩ := by
  induction entries generalizing store with
  | nil =>
    simp [addAll, Record.numbered, eq_comm (a := store)]
  | cons entry rest inductionHypothesis =>
    obtain ⟨draft, date⟩ := entry
    have afterOne := nextIdentifier_numbered store [(draft, date)]
    simp only [Record.numbered, List.length_singleton] at afterOne
    by_cases undefined : Decimal.isNotANumber draft.amount = true
    · simp [addAll, undefined]
    · have known : Decimal.isNotANumber draft.amount = false := by simpa using undefined
      simp [addAll, known, inductionHypothesis, append, afterOne, Record.numbered]

/-- Rows are read one by one, and the first that is no draft ends the reading. -/
theorem readDrafts_eq_mapM (rows : List Row) : readDrafts rows = rows.mapM Draft.read := by
  induction rows with
  | nil => rfl
  | cons row rest inductionHypothesis =>
    rw [readDrafts, inductionHypothesis, List.mapM_cons]

theorem readDrafts_cons_eq_ok_iff {row : Row} {rest : List Row} {drafts : List Draft} :
    readDrafts (row :: rest) = .ok drafts ↔
      ∃ draft others, Draft.read row = .ok draft ∧ readDrafts rest = .ok others ∧
        drafts = draft :: others := by
  rw [readDrafts_eq_mapM, readDrafts_eq_mapM]
  exact Outcome.mapM_cons_eq_ok_iff

theorem datedDrafts_cons_eq_ok_iff {draft : Draft} {rest : List Draft}
    {entries : List (Draft × DateTime)} :
    datedDrafts (draft :: rest) = .ok entries ↔
      ∃ moment others, draft.date.moment? = some moment ∧ datedDrafts rest = .ok others ∧
        entries = (draft, moment.clock) :: others := by
  rw [datedDrafts, Outcome.mapM_cons_eq_ok_iff]
  cases draft.date.moment? with
  | none => simp
  | some moment => simp [datedDrafts]

/-- The passes over a batch ask together of each row whether it is kept, and nothing else. -/
theorem keptAll_iff_passes {rows : List Row} {entries : List (Draft × DateTime)} :
    rows.mapM Row.kept? = some entries ↔
      ∃ drafts, readDrafts rows = .ok drafts ∧ datedDrafts drafts = .ok entries ∧
        ∀ entry ∈ entries, Decimal.isNotANumber entry.1.amount = false := by
  induction rows generalizing entries with
  | nil =>
    constructor
    · intro kept
      cases kept
      exact ⟨[], rfl, rfl, by simp⟩
    · rintro ⟨drafts, read, dated, _⟩
      cases read
      cases dated
      rfl
  | cons row rest inductionHypothesis =>
    rw [Row.keptAll_cons]
    constructor
    · intro kept
      obtain ⟨entry, rowKept, restKept⟩ := Option.bind_eq_some_iff.mp kept
      obtain ⟨others, othersKept, rfl⟩ := Option.map_eq_some_iff.mp restKept
      obtain ⟨draft, moment, read, dated, known, rfl⟩ := Row.kept?_eq_some_iff.mp rowKept
      obtain ⟨drafts, restRead, restDated, restKnown⟩ := inductionHypothesis.mp othersKept
      refine ⟨draft :: drafts, ?_, ?_, ?_⟩
      · exact readDrafts_cons_eq_ok_iff.mpr ⟨draft, drafts, read, restRead, rfl⟩
      · exact datedDrafts_cons_eq_ok_iff.mpr ⟨moment, others, dated, restDated, rfl⟩
      · exact List.forall_mem_cons.mpr ⟨known, restKnown⟩
    · rintro ⟨drafts, read, dated, known⟩
      obtain ⟨draft, others, rowRead, restRead, rfl⟩ := readDrafts_cons_eq_ok_iff.mp read
      obtain ⟨moment, more, rowDated, restDated, rfl⟩ := datedDrafts_cons_eq_ok_iff.mp dated
      obtain ⟨rowKnown, restKnown⟩ := List.forall_mem_cons.mp known
      rw [Row.kept?_eq_some_iff.mpr ⟨draft, moment, rowRead, rowDated, rowKnown, rfl⟩,
        inductionHypothesis.mpr ⟨others, restRead, restDated, restKnown⟩]
      rfl

/-- A batch is taken exactly when there are records for its rows, which are then at the end of the
store. -/
theorem addBatch_eq_ok_iff {store next : Store} {rows : List Row} :
    store.addBatch rows = .ok next ↔
      ∃ records, Record.ofRows? store.nextIdentifier rows = some records ∧
        next = ⟨store.records ++ records⟩ := by
  constructor
  · intro added
    unfold addBatch at added
    split at added
    · cases added
    · next drafts read =>
      split at added
      · cases added
      · next stored addedAll =>
        cases added
        obtain ⟨entries, dated, all⟩ : ∃ entries, datedDrafts drafts = .ok entries ∧
            store.addAll entries = .ok next := by
          cases dated : datedDrafts drafts with
          | error cause => simp [dated, Except.bind] at addedAll
          | ok entries => exact ⟨entries, rfl, by simpa [dated, Except.bind] using addedAll⟩
        obtain ⟨known, rfl⟩ := addAll_eq_ok_iff.mp all
        have kept := keptAll_iff_passes.mpr ⟨drafts, read, dated, known⟩
        exact ⟨_, by rw [Record.ofRows?, kept, Option.map_some], rfl⟩
  · rintro ⟨records, stored, rfl⟩
    obtain ⟨entries, kept, rfl⟩ := Option.map_eq_some_iff.mp stored
    obtain ⟨drafts, read, dated, known⟩ := keptAll_iff_passes.mp kept
    have all : store.addAll entries = .ok _ := addAll_eq_ok_iff.mpr ⟨known, rfl⟩
    simp [addBatch, read, dated, Except.bind, all]

/-- A batch whose rows can all be stored is stored as a whole. -/
theorem insertBatch_of_stored {store : Store} {rows : List Row} {records : List Record}
    (stored : Record.ofRows? store.nextIdentifier rows = some records) :
    store.insertBatch rows = (.ok rows.length, ⟨store.records ++ records⟩) := by
  have added := addBatch_eq_ok_iff.mpr ⟨records, stored, rfl⟩
  simp [insertBatch, added]

/-- A batch with a row that cannot be stored leaves the store as it was. -/
theorem insertBatch_of_refused {store : Store} {rows : List Row}
    (refused : Record.ofRows? store.nextIdentifier rows = none) :
    ∃ failure, store.insertBatch rows = (.error failure, store) := by
  unfold insertBatch
  split
  · next added =>
    obtain ⟨records, stored, _⟩ := addBatch_eq_ok_iff.mp added
    simp [refused] at stored
  · next failure _ => exact ⟨failure, rfl⟩

/-- After a batch that is taken, the record of each row stands as far behind those that were there
as the row stands in the batch. -/
theorem exists_record_of_insertBatch {store next : Store} {rows : List Row} {count : Nat}
    (inserted : store.insertBatch rows = (.ok count, next)) {place : Nat} {row : Row}
    (there : rows[place]? = some row) :
    ∃ record, next.records[store.records.length + place]? = some record ∧ record.IsOf row := by
  cases stored : Record.ofRows? store.nextIdentifier rows with
  | none =>
    obtain ⟨failure, refused⟩ := insertBatch_of_refused stored
    rw [refused] at inserted
    cases inserted
  | some records =>
    rw [insertBatch_of_stored stored] at inserted
    cases inserted
    have matched := Outcome.rel_getElem? (Record.forall₂_isOf stored) place
    rw [there] at matched
    generalize found : records[place]? = record at matched
    cases matched with
    | some isOf =>
      refine ⟨_, ?_, isOf⟩
      rw [List.getElem?_append_right (Nat.le_add_right _ _), Nat.add_sub_cancel_left, found]

/-- Whether a batch is taken depends on its rows alone, and not on the store. -/
theorem toBool_insertBatch (store : Store) (rows : List Row) :
    (store.insertBatch rows).1.toBool = rows.all fun row => row.kept?.isSome := by
  rw [← Record.isSome_ofRows? store.nextIdentifier]
  cases stored : Record.ofRows? store.nextIdentifier rows with
  | some records => simp [insertBatch_of_stored stored, Except.toBool]
  | none =>
    obtain ⟨failure, refused⟩ := insertBatch_of_refused stored
    simp [refused, Except.toBool]

/-- Whether records are added, or why not, is the same for all stores. -/
theorem addAll_outcome (store other : Store) (entries : List (Draft × DateTime)) :
    (store.addAll entries).map (fun _ => ()) = (other.addAll entries).map fun _ => () := by
  induction entries generalizing store other with
  | nil => rfl
  | cons entry rest inductionHypothesis =>
    obtain ⟨draft, date⟩ := entry
    rw [addAll, addAll]
    split
    · rfl
    · exact inductionHypothesis _ _

/-- The outcome of a batch is the same for all stores. -/
theorem insertBatch_outcome (store other : Store) (rows : List Row) :
    (store.insertBatch rows).1 = (other.insertBatch rows).1 := by
  have sameBatch : (store.addBatch rows).map (fun _ => ()) =
      (other.addBatch rows).map fun _ => () := by
    unfold addBatch
    cases readDrafts rows with
    | error faults => rfl
    | ok drafts =>
      dsimp only
      cases datedDrafts drafts with
      | error cause => rfl
      | ok entries =>
        dsimp only [Except.bind]
        rcases Outcome.forget_eq_iff.mp (addAll_outcome store other entries) with
          ⟨cause, refused, otherRefused⟩ | ⟨⟨next, added⟩, otherNext, otherAdded⟩
        · rw [refused, otherRefused]
        · rw [added, otherAdded]
          rfl
  unfold insertBatch
  rcases Outcome.forget_eq_iff.mp sameBatch with
    ⟨failure, refused, otherRefused⟩ | ⟨⟨next, added⟩, otherNext, otherAdded⟩
  · rw [refused, otherRefused]
  · rw [added, otherAdded]

end Store

end SheetIntake
