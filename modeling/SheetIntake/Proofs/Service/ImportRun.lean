import Mathlib.Algebra.GroupWithZero.Nat
import Mathlib.Data.List.TakeWhile
import SheetIntake.Proofs.Store.Batch
import SheetIntake.Service.Import

/-!
# Runs of an import

An import goes over the sheets of its request. It ends early at the first sheet whose rows cannot be
selected or whose batch the store refuses. `importSheets_run` follows a run from any store and any
count: what was stored is exactly the batches of the sheets before that one, each of them whole, and
there is an answer only if there is no such sheet.
-/

namespace SheetIntake.Service

open Selection

/-- The batches of sheets, in order, or why the rows of a sheet cannot be selected. -/
def sheetBatches (registry : Registry) (errors : SheetErrors) (sheets : SheetRows) :
    List (Except Failure (List Row)) :=
  sheets.map fun entry => sheetBatch registry errors entry.1 entry.2

/-- The batches of the sheets of a request. -/
def ImportRequest.batches (request : ImportRequest) (registry : Registry) :
    List (Except Failure (List Row)) :=
  sheetBatches registry (request.errors.getD []) (request.rows.getD [])

/-- Whether there is a batch and a store takes it. -/
def isTaken (store : Store) : Except Failure (List Row) → Bool
  | .ok batch => (store.insertBatch batch).1.toBool
  | .error _ => false

/-- The batches before the first that is not there or not taken. -/
def takenBatches (store : Store) (batches : List (Except Failure (List Row))) : List (List Row) :=
  (batches.takeWhile (isTaken store)).filterMap Except.toOption

theorem isTaken_ok (store : Store) (batch : List Row) :
    isTaken store (.ok batch) = batch.all fun row => row.kept?.isSome :=
  store.toBool_insertBatch batch

theorem takenBatches_cons_of_taken {store : Store} {batch : List Row}
    (batches : List (Except Failure (List Row))) (taken : isTaken store (.ok batch) = true) :
    takenBatches store (.ok batch :: batches) = batch :: takenBatches store batches := by
  simp [takenBatches, taken, Except.toOption]

theorem takenBatches_cons_of_not_taken {store : Store} {batch : Except Failure (List Row)}
    (batches : List (Except Failure (List Row))) (refused : isTaken store batch = false) :
    takenBatches store (batch :: batches) = [] := by
  simp [takenBatches, refused]

/-- Batches that are there are taken up to the first that is refused. -/
theorem takenBatches_map_ok (store : Store) (batches : List (List Row)) :
    takenBatches store (batches.map .ok) =
      batches.takeWhile fun batch => isTaken store (.ok batch) := by
  rw [takenBatches, List.takeWhile_map, List.filterMap_map]
  exact List.filterMap_some

/-- One sheet whose batch is taken adds the records of the batch. -/
theorem importSheet_of_stored {registry : Registry} {errors : SheetErrors} {store : Store}
    {sheet : String} {rows : Option (List Row)} {batch : List Row} {records : List Record}
    (selected : sheetBatch registry errors sheet rows = .ok batch)
    (stored : Record.ofRows? store.nextIdentifier batch = some records) :
    importSheet registry errors store sheet rows =
      (.ok batch.length, ⟨store.records ++ records⟩) := by
  simp [importSheet, selected, Store.insertBatch_of_stored stored, Except.mapError]

/-- One sheet that fails in either way leaves the store as it was. -/
theorem importSheet_of_not_taken {registry : Registry} {errors : SheetErrors} {sheet : String}
    {rows : Option (List Row)} {probe : Store} (store : Store)
    (refused : isTaken probe (sheetBatch registry errors sheet rows) = false) :
    ∃ failure, importSheet registry errors store sheet rows = (.error failure, store) := by
  unfold importSheet
  cases selected : sheetBatch registry errors sheet rows with
  | error failure => exact ⟨failure, rfl⟩
  | ok batch =>
    rw [selected, isTaken_ok, ← Record.isSome_ofRows? store.nextIdentifier] at refused
    have none_stored : Record.ofRows? store.nextIdentifier batch = none := by simpa using refused
    obtain ⟨failure, kept⟩ := Store.insertBatch_of_refused none_stored
    exact ⟨.batch failure, by simp [kept, Except.mapError]⟩

/-- A run over sheets stores the batches before the first failure and answers when there is none.
Any store may be asked which batches are taken, because all stores agree on that. -/
theorem importSheets_run (registry : Registry) (errors : SheetErrors) (probe store : Store)
    (imported : Nat) (sheets : SheetRows) :
    let batches := sheetBatches registry errors sheets
    let taken := (takenBatches probe batches).flatten
    ∃ records, Record.ofRows? store.nextIdentifier taken = some records ∧
      (importSheets registry errors store imported sheets).2 = ⟨store.records ++ records⟩ ∧
      (importSheets registry errors store imported sheets).1.toOption =
        if batches.all (isTaken probe) then some (imported + taken.length) else none := by
  induction sheets generalizing store imported with
  | nil =>
    refine ⟨[], rfl, ?_, ?_⟩
    · simp [importSheets]
    · simp [importSheets, sheetBatches, takenBatches, Except.toOption]
  | cons entry rest inductionHypothesis =>
    obtain ⟨sheet, rows⟩ := entry
    have batches_cons : sheetBatches registry errors ((sheet, rows) :: rest) =
        sheetBatch registry errors sheet rows :: sheetBatches registry errors rest := rfl
    rw [batches_cons]
    intro batches taken
    by_cases refused : isTaken probe (sheetBatch registry errors sheet rows) = false
    · -- This sheet ends the run, so nothing of it or of the rest is stored.
      obtain ⟨failure, ended⟩ := importSheet_of_not_taken store refused
      have nothing : taken = [] := by
        simp [taken, batches, takenBatches_cons_of_not_taken _ refused]
      refine ⟨[], by rw [nothing]; rfl, ?_, ?_⟩
      · simp [importSheets, ended]
      · simp [importSheets, ended, batches, refused, Except.toOption]
    · -- The batch is taken, and the run goes on from a store with its records at the end.
      have accepted : isTaken probe (sheetBatch registry errors sheet rows) = true := by
        simpa using refused
      cases selected : sheetBatch registry errors sheet rows with
      | error failure => simp [selected, isTaken] at accepted
      | ok batch =>
        rw [selected] at accepted
        have takenFirst : taken =
            batch ++ (takenBatches probe (sheetBatches registry errors rest)).flatten := by
          simp [taken, batches, selected, takenBatches_cons_of_taken _ accepted]
        have storable := accepted
        rw [isTaken_ok, ← Record.isSome_ofRows? store.nextIdentifier] at storable
        obtain ⟨records, stored⟩ := Option.isSome_iff_exists.mp storable
        have numbered := Store.nextIdentifier_append (Record.identifiers_ofRows? stored)
        rw [Record.length_ofRows? stored] at numbered
        obtain ⟨others, othersStored, lastStore, lastOutcome⟩ :=
          inductionHypothesis ⟨store.records ++ records⟩ (imported + batch.length)
        rw [numbered] at othersStored
        have step : importSheets registry errors store imported ((sheet, rows) :: rest) =
            importSheets registry errors ⟨store.records ++ records⟩ (imported + batch.length)
              rest := by
          rw [importSheets, importSheet_of_stored selected stored]
        refine ⟨records ++ others, ?_, ?_, ?_⟩
        · rw [takenFirst]
          exact Record.ofRows?_append stored othersStored
        · rw [step, lastStore, List.append_assoc]
        · rw [step, lastOutcome, takenFirst, List.length_append, Nat.add_assoc]
          simp [batches, selected, accepted]

/-- A run over sheets that ends with a count is an import that answers with it. -/
theorem importRows_of_complete {request : ImportRequest} {sheets : SheetRows}
    (given : request.rows = some sheets) {registry : Registry} {store next : Store} {count : Nat}
    (last : (importSheets registry (request.errors.getD []) store 0 sheets).2 = next)
    (complete : (importSheets registry (request.errors.getD []) store 0 sheets).1.toOption =
      some count) :
    importRows request registry store = (.ok ⟨count⟩, next) := by
  simp only [importRows, given]
  generalize importSheets registry (request.errors.getD []) store 0 sheets = run
    at last complete ⊢
  obtain ⟨outcome, reached⟩ := run
  cases last
  cases outcome with
  | error failure => cases complete
  | ok imported =>
    cases complete
    rfl

/-- A run over sheets that ends early is an import that fails. -/
theorem importRows_of_incomplete {request : ImportRequest} {sheets : SheetRows}
    (given : request.rows = some sheets) {registry : Registry} {store next : Store}
    (last : (importSheets registry (request.errors.getD []) store 0 sheets).2 = next)
    (incomplete : (importSheets registry (request.errors.getD []) store 0 sheets).1.toOption =
      none) :
    importRows request registry store =
      (.error (.serverError "Error importing data."), next) := by
  simp only [importRows, given]
  generalize importSheets registry (request.errors.getD []) store 0 sheets = run
    at last incomplete ⊢
  obtain ⟨outcome, reached⟩ := run
  cases last
  cases outcome with
  | error failure => rfl
  | ok imported => cases incomplete

/-- An import stores the batches before the first failure, and answers with the number of their rows
when there is no failure. -/
theorem importRows_run {request : ImportRequest} {sheets : SheetRows}
    (given : request.rows = some sheets) (registry : Registry) (store probe : Store) :
    let batches := request.batches registry
    let taken := (takenBatches probe batches).flatten
    ∃ records, Record.ofRows? store.nextIdentifier taken = some records ∧
      importRows request registry store =
        (if batches.all (isTaken probe) then .ok ⟨taken.length⟩
          else .error (.serverError "Error importing data."),
        ⟨store.records ++ records⟩) := by
  have shape : request.batches registry =
      sheetBatches registry (request.errors.getD []) sheets := by
    rw [ImportRequest.batches, given, Option.getD_some]
  intro batches taken
  obtain ⟨records, stored, last, outcome⟩ :=
    importSheets_run registry (request.errors.getD []) probe store 0 sheets
  rw [← shape] at stored outcome
  refine ⟨records, stored, ?_⟩
  cases complete : batches.all (isTaken probe) with
  | true =>
    rw [complete, if_pos rfl, Nat.zero_add] at outcome
    exact importRows_of_complete given last outcome
  | false =>
    rw [complete, if_neg Bool.false_ne_true] at outcome
    exact importRows_of_incomplete given last outcome

/-- When the rows of all sheets are selected, an import answers exactly when each of these rows can
be stored, and then it stores all of them. -/
theorem importRows_eq_ok_iff {request : ImportRequest} {sheets : SheetRows}
    (given : request.rows = some sheets) {registry : Registry} {batches : List (List Row)}
    (selected : request.batches registry = batches.map .ok) {store next : Store}
    {summary : ImportSummary} :
    importRows request registry store = (.ok summary, next) ↔
      ∃ records, Record.ofRows? store.nextIdentifier batches.flatten = some records ∧
        summary = ⟨records.length⟩ ∧ next = ⟨store.records ++ records⟩ := by
  obtain ⟨records, stored, outcome⟩ := importRows_run given registry store store
  have accepted : (request.batches registry).all (isTaken store) =
      (Record.ofRows? store.nextIdentifier batches.flatten).isSome := by
    rw [selected, List.all_map, Record.isSome_ofRows?, List.all_flatten]
    congr 1
    funext batch
    exact isTaken_ok store batch
  rw [outcome, accepted]
  cases complete : Record.ofRows? store.nextIdentifier batches.flatten with
  | none => simp
  | some others =>
    rw [complete, Option.isSome_some, List.all_eq_true] at accepted
    have taken : (takenBatches store (request.batches registry)).flatten = batches.flatten := by
      rw [selected, List.forall_mem_map] at accepted
      rw [selected, takenBatches_map_ok, List.takeWhile_eq_self_iff.mpr accepted]
    rw [taken, complete] at stored
    cases stored
    rw [taken, ← Record.length_ofRows? complete]
    simp [eq_comm]

/-- Batches that agree place by place, but for places where neither is taken, end alike. -/
theorem takenBatches_congr {store : Store} {first second : List (Except Failure (List Row))}
    (agree : List.Forall₂ (fun left right => left = right ∨
      isTaken store left = false ∧ isTaken store right = false) first second) :
    takenBatches store first = takenBatches store second ∧
      first.all (isTaken store) = second.all (isTaken store) := by
  induction agree with
  | nil => exact ⟨rfl, rfl⟩
  | @cons left right lefts rights here _ inductionHypothesis =>
    obtain ⟨sameTaken, sameEnd⟩ := inductionHypothesis
    rw [List.all_cons, List.all_cons, sameEnd]
    rcases here with rfl | ⟨leftRefused, rightRefused⟩
    · refine ⟨?_, rfl⟩
      cases taken : isTaken store left with
      | false =>
        rw [takenBatches_cons_of_not_taken _ taken, takenBatches_cons_of_not_taken _ taken]
      | true =>
        cases left with
        | error failure => cases taken
        | ok batch =>
          rw [takenBatches_cons_of_taken _ taken, takenBatches_cons_of_taken _ taken, sameTaken]
    · rw [takenBatches_cons_of_not_taken _ leftRefused,
        takenBatches_cons_of_not_taken _ rightRefused, leftRefused, rightRefused]
      exact ⟨rfl, rfl⟩

/-- Imports whose batches agree, but for places where neither is taken, have the same answer and
leave the same store. -/
theorem importRows_congr {first second : ImportRequest} {firstSheets secondSheets : SheetRows}
    (firstGiven : first.rows = some firstSheets) (secondGiven : second.rows = some secondSheets)
    {registry : Registry} {store : Store}
    (agree : List.Forall₂ (fun left right => left = right ∨
      isTaken store left = false ∧ isTaken store right = false)
      (first.batches registry) (second.batches registry)) :
    importRows first registry store = importRows second registry store := by
  obtain ⟨records, stored, outcome⟩ := importRows_run firstGiven registry store store
  obtain ⟨others, othersStored, otherOutcome⟩ := importRows_run secondGiven registry store store
  obtain ⟨sameTaken, sameEnd⟩ := takenBatches_congr agree
  rw [sameTaken, othersStored] at stored
  cases stored
  rw [outcome, otherOutcome, sameTaken, sameEnd]

/-- Batches without rows are always taken. -/
theorem all_isTaken_of_empty {batches : List (Except Failure (List Row))}
    (empty : ∀ batch ∈ batches, batch = .ok []) (store : Store) :
    batches.all (isTaken store) = true := by
  rw [List.all_eq_true]
  intro batch present
  rw [empty batch present, isTaken_ok]
  rfl

theorem rows_of_empty {batches : List (Except Failure (List Row))}
    (empty : ∀ batch ∈ batches, batch = .ok []) :
    (batches.filterMap Except.toOption).flatten = [] := by
  rw [List.flatten_eq_nil_iff]
  intro rows present
  obtain ⟨batch, batchPresent, isRows⟩ := List.mem_filterMap.mp present
  rw [empty batch batchPresent] at isRows
  exact (Option.some.inj isRows).symm

/-- When one batch alone has rows, an import answers with their number if the batch is taken. -/
theorem answer_of_only_batch {request : ImportRequest} {sheets : SheetRows}
    (given : request.rows = some sheets) {registry : Registry}
    {before after : List (Except Failure (List Row))} {batch : List Row}
    (shape : request.batches registry = before ++ .ok batch :: after)
    (beforeEmpty : ∀ other ∈ before, other = .ok []) (afterEmpty : ∀ other ∈ after, other = .ok [])
    (store : Store) :
    (importRows request registry store).1 =
      if isTaken store (.ok batch) then .ok ⟨batch.length⟩
      else .error (.serverError "Error importing data.") := by
  obtain ⟨records, _, outcome⟩ := importRows_run given registry store store
  have complete : (request.batches registry).all (isTaken store) = isTaken store (.ok batch) := by
    rw [shape, List.all_append, List.all_cons, all_isTaken_of_empty beforeEmpty,
      all_isTaken_of_empty afterEmpty, Bool.true_and, Bool.and_true]
  rw [outcome, complete]
  dsimp only
  split
  · next taken =>
    have all : ∀ other ∈ request.batches registry, isTaken store other = true := by
      rw [taken] at complete
      exact List.all_eq_true.mp complete
    have inFront : (Except.ok batch :: after).filterMap Except.toOption =
        batch :: after.filterMap Except.toOption := rfl
    have rows : (takenBatches store (request.batches registry)).flatten = batch := by
      rw [takenBatches, List.takeWhile_eq_self_iff.mpr all, shape, List.filterMap_append, inFront,
        List.flatten_append, List.flatten_cons, rows_of_empty beforeEmpty,
        rows_of_empty afterEmpty, List.nil_append, List.append_nil]
    rw [rows]
  · rfl

/-- An import keeps the batches of the sheets before the first that fails. With the rows of all
sheets selected and all their batches taken, the answer says how many rows these are, and the store
has their records at its end. Otherwise the server has failed, and the store has at its end the
records of the batches before the failure, whether rows could not be selected or a batch was
refused. Any store, such as the one that a run has reached, may be asked which batches are taken. -/
theorem importRows_keeps_batches_before_failure {request : ImportRequest} {sheets : SheetRows}
    (given : request.rows = some sheets) (registry : Registry) (store probe : Store) :
    let batches := request.batches registry
    let kept := (takenBatches probe batches).filter fun batch => !batch.isEmpty
    ∃ records, Record.ofRows? store.nextIdentifier kept.flatten = some records ∧
      importRows request registry store =
        (if batches.all (isTaken probe) then .ok ⟨(kept.map List.length).sum⟩
          else .error (.serverError "Error importing data."),
        ⟨store.records ++ records⟩) := by
  intro batches kept
  obtain ⟨records, stored, outcome⟩ := importRows_run given registry store probe
  have flat : kept.flatten = (takenBatches probe batches).flatten :=
    List.flatten_filter_not_isEmpty
  refine ⟨records, by rw [flat]; exact stored, ?_⟩
  rw [← List.length_flatten, flat]
  exact outcome

/-- Four sheets: the second has no rows, and a row of the third has no amount. -/
def sheetsWithBrokenThird : Selection.SheetRows :=
  [("First", some [[("name", .text "Ann"), ("amount", .float 5.0), ("date", .text "2024-01-15")]]),
    ("Empty", none),
    ("Broken", some [[("name", .text "Bob"), ("amount", .null), ("date", .text "2024-01-16")]]),
    ("Last", some [[("name", .text "Eve"), ("amount", .int 7), ("date", .text "2024-01-17")]])]

/-- The request for these sheets alone. -/
def importOfBrokenThird : ImportRequest := ⟨none, some sheetsWithBrokenThird, none⟩

theorem importRows_keeps_first_sheet :
    importOfBrokenThird.rows = some sheetsWithBrokenThird ∧
      ∃ records, records.length = 1 ∧
        importRows importOfBrokenThird .builtin .empty =
          (.error (.serverError "Error importing data."), ⟨records⟩) := by
  have given : importOfBrokenThird.rows = some sheetsWithBrokenThird := rfl
  obtain ⟨records, stored, outcome⟩ :=
    importRows_keeps_batches_before_failure given .builtin .empty .empty
  have kept := Record.length_ofRows? stored
  have one : ((takenBatches Store.empty (importOfBrokenThird.batches .builtin)).filter
      fun batch => !batch.isEmpty).flatten.length = 1 := by decide
  have incomplete : (importOfBrokenThird.batches .builtin).all (isTaken Store.empty) = false := by
    decide
  rw [incomplete, if_neg Bool.false_ne_true] at outcome
  exact ⟨given, records, kept.trans one, outcome⟩

end SheetIntake.Service
