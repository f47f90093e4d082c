import Mathlib.Logic.Function.Iterate
import SheetIntake.Proofs.Service.ImportRun
import SheetIntake.Proofs.Store.Invariant

/-!
# Imports under way

An import goes from sheet to sheet. It selects the rows of a sheet, for which it needs nothing but
the request, and then hands them to the store as one batch, which is the only step that looks at the
store or changes it. `Importing.step` is one of these steps, and between two of them the store may
change. `finish` is the rest of an import that is left alone from now on; since none of its own
steps changes it, an import that is left alone from the beginning is `importRows`.

What other imports do to the store changes neither the outcome of an import (`Steps.outcome_eq`) nor
the batches that it has still to store: a step takes some of these from the front, hands their rows
to the store (`handed`) and adds their records (`Steps.pending_eq`).
-/

namespace SheetIntake.Service

open Selection

/-- Where an import is. -/
inductive ImportPhase where
  /-- Next the rows of a sheet are selected. -/
  | selecting (sheets : SheetRows) (imported : Nat)
  /-- Next a batch is handed to the store. -/
  | storing (batch : List Row) (rest : SheetRows) (imported : Nat)
  /-- Nothing is left to do. -/
  | ended (outcome : Except Failure Nat)

/-- An import under way. -/
structure Importing where
  registry : Registry
  errors : SheetErrors
  phase : ImportPhase

/-- The answer to a request to import whose sheets were imported with an outcome. -/
def importAnswer (outcome : Except Failure Nat) : Answer ImportSummary :=
  (outcome.map ImportSummary.mk).mapError fun _ => .serverError "Error importing data."

namespace Importing

/-- An import at its beginning. -/
def start (request : ImportRequest) (registry : Registry) : Importing :=
  ⟨registry, request.errors.getD [], .selecting (request.rows.getD []) 0⟩

/-- An import in another phase. -/
def enter (importing : Importing) (phase : ImportPhase) : Importing :=
  { importing with phase := phase }

/-- The next step of an import. Without importable rows in a sheet the store is left out. -/
def step (importing : Importing) (store : Store) : Importing × Store :=
  match importing.phase with
  | .selecting [] imported => (importing.enter (.ended (.ok imported)), store)
  | .selecting ((sheet, rows) :: rest) imported =>
    match sheetBatch importing.registry importing.errors sheet rows with
    | .error failure => (importing.enter (.ended (.error failure)), store)
    | .ok [] => (importing.enter (.selecting rest imported), store)
    | .ok batch => (importing.enter (.storing batch rest imported), store)
  | .storing batch rest imported =>
    match store.insertBatch batch with
    | (.error failure, next) => (importing.enter (.ended (.error (.batch failure))), next)
    | (.ok count, next) => (importing.enter (.selecting rest (imported + count)), next)
  | .ended _ => (importing, store)

/-- The answer of an import that has ended. -/
def answer? (importing : Importing) : Option (Answer ImportSummary) :=
  match importing.phase with
  | .ended outcome => some (importAnswer outcome)
  | _ => none

/-- The rest of an import that is left alone: its outcome, and the store after it. -/
def finish (importing : Importing) (store : Store) : Except Failure Nat × Store :=
  match importing.phase with
  | .selecting sheets imported =>
    importSheets importing.registry importing.errors store imported sheets
  | .storing batch rest imported =>
    match store.insertBatch batch with
    | (.error failure, next) => (.error (.batch failure), next)
    | (.ok count, next) =>
      importSheets importing.registry importing.errors next (imported + count) rest
  | .ended outcome => (outcome, store)

/-- A number of steps that an import takes at most. -/
def stepsLeft (importing : Importing) : Nat :=
  match importing.phase with
  | .selecting sheets _ => 2 * sheets.length + 1
  | .storing _ rest _ => 2 * rest.length + 2
  | .ended _ => 0

/-- Everything that a step can do. -/
inductive Steps (importing : Importing) (store : Store) : Importing → Store → Prop
  /-- No sheet is left. -/
  | done {imported : Nat} (phase : importing.phase = .selecting [] imported) :
    Steps importing store (importing.enter (.ended (.ok imported))) store
  /-- The rows of a sheet cannot be selected. -/
  | unselected {sheet : String} {rows : Option (List Row)} {rest : SheetRows} {imported : Nat}
    {failure : Failure} (phase : importing.phase = .selecting ((sheet, rows) :: rest) imported)
    (failed : sheetBatch importing.registry importing.errors sheet rows = .error failure) :
    Steps importing store (importing.enter (.ended (.error failure))) store
  /-- No row of a sheet is importable. -/
  | skipped {sheet : String} {rows : Option (List Row)} {rest : SheetRows} {imported : Nat}
    (phase : importing.phase = .selecting ((sheet, rows) :: rest) imported)
    (empty : sheetBatch importing.registry importing.errors sheet rows = .ok []) :
    Steps importing store (importing.enter (.selecting rest imported)) store
  /-- Some rows of a sheet are importable. -/
  | selected {sheet : String} {rows : Option (List Row)} {rest : SheetRows} {imported : Nat}
    {batch : List Row} (phase : importing.phase = .selecting ((sheet, rows) :: rest) imported)
    (given : sheetBatch importing.registry importing.errors sheet rows = .ok batch)
    (some : batch ≠ []) :
    Steps importing store (importing.enter (.storing batch rest imported)) store
  /-- The store refuses a batch. -/
  | refused {batch : List Row} {rest : SheetRows} {imported : Nat} {failure : BatchFailure}
    (phase : importing.phase = .storing batch rest imported)
    (inserted : store.insertBatch batch = (.error failure, store)) :
    Steps importing store (importing.enter (.ended (.error (.batch failure)))) store
  /-- The store takes a batch. -/
  | stored {batch : List Row} {rest : SheetRows} {imported : Nat} {next : Store}
    (phase : importing.phase = .storing batch rest imported)
    (inserted : store.insertBatch batch = (.ok batch.length, next))
    (grows : store.GrowsBy batch next) :
    Steps importing store (importing.enter (.selecting rest (imported + batch.length))) next
  /-- The import has ended before. -/
  | stopped {outcome : Except Failure Nat} (phase : importing.phase = .ended outcome) :
    Steps importing store importing store

theorem steps_step (importing : Importing) (store : Store) :
    Steps importing store (importing.step store).1 (importing.step store).2 := by
  obtain ⟨registry, errors, phase⟩ := importing
  cases phase with
  | selecting sheets imported =>
    cases sheets with
    | nil => exact .done rfl
    | cons entry rest =>
      obtain ⟨sheet, rows⟩ := entry
      rw [step]
      dsimp only
      split
      · next failed => exact .unselected rfl failed
      · next empty => exact .skipped rfl empty
      · next some given => exact .selected rfl given some
  | storing batch rest imported =>
    rw [step]
    dsimp only
    rcases store.insertBatch_cases batch with ⟨next, inserted, grows⟩ | ⟨failure, inserted⟩
    · rw [inserted]
      exact .stored rfl inserted grows
    · rw [inserted]
      exact .refused rfl inserted
  | ended outcome => exact .stopped rfl

variable {importing next : Importing} {store after : Store}

/-- A step brings an import nearer to its end. -/
theorem Steps.stepsLeft_le (steps : Steps importing store next after) :
    next.stepsLeft ≤ importing.stepsLeft - 1 := by
  cases steps with
  | done phase | unselected phase failed | refused phase inserted => exact Nat.zero_le _
  | skipped phase empty | selected phase given some | stored phase inserted grows =>
    simp only [stepsLeft, enter, phase, List.length_cons]
    omega
  | stopped phase => simp [stepsLeft, phase]

/-- A step of an import is the beginning of the rest of it. -/
theorem Steps.finish_eq (steps : Steps importing store next after) :
    next.finish after = importing.finish store := by
  cases steps with
  | done phase =>
    rw [finish, finish, phase]
    rfl
  | unselected phase failed =>
    rw [finish, finish, phase]
    simp [importSheets, importSheet, failed, enter]
  | skipped phase empty =>
    rw [finish, finish, phase]
    have nothing : store.insertBatch [] = (.ok 0, store) := rfl
    simp [importSheets, importSheet, empty, enter, nothing, Except.mapError]
  | selected phase given some =>
    rw [finish, finish, phase]
    simp only [importSheets, importSheet, given, enter]
    rcases store.insertBatch_cases _ with ⟨next, inserted, _⟩ | ⟨failure, inserted⟩ <;>
      rw [inserted] <;> rfl
  | refused phase inserted =>
    rw [finish, finish, phase]
    simp [inserted, enter]
  | stored phase inserted grows =>
    rw [finish, finish, phase]
    simp [inserted, enter]
  | stopped phase => rfl

end Importing

/-- How the sheets of an import end does not depend on what the store holds. -/
theorem importSheets_outcome (registry : Registry) (errors : SheetErrors) (store other : Store)
    (imported : Nat) (sheets : SheetRows) :
    (importSheets registry errors store imported sheets).1 =
      (importSheets registry errors other imported sheets).1 := by
  induction sheets generalizing store other imported with
  | nil => rfl
  | cons entry rest inductionHypothesis =>
    obtain ⟨sheet, rows⟩ := entry
    rw [importSheets, importSheets, importSheet, importSheet]
    cases sheetBatch registry errors sheet rows with
    | error failure => rfl
    | ok batch =>
      rcases store.insertBatch_together other batch with
        ⟨next, otherNext, inserted, otherInserted⟩ | ⟨failure, refused, otherRefused⟩
      · simp only [inserted, otherInserted]
        exact inductionHypothesis next otherNext _
      · simp only [refused, otherRefused]
        rfl

namespace Importing

variable {importing next : Importing} {store after : Store}

/-- How the rest of an import ends does not depend on what the store holds. -/
theorem finish_outcome (importing : Importing) (store other : Store) :
    (importing.finish store).1 = (importing.finish other).1 := by
  unfold finish
  cases importing.phase with
  | selecting sheets imported => exact importSheets_outcome _ _ store other imported sheets
  | storing batch rest imported =>
    rcases store.insertBatch_together other batch with
      ⟨next, otherNext, inserted, otherInserted⟩ | ⟨failure, refused, otherRefused⟩
    · simp only [inserted, otherInserted]
      exact importSheets_outcome _ _ next otherNext _ rest
    · simp only [refused, otherRefused]
  | ended outcome => rfl

/-- How an import ends, which does not depend on the store. -/
def outcome (importing : Importing) : Except Failure Nat :=
  (importing.finish .empty).1

/-- A step leaves it open to an import to end as it would have, whatever was done to the store. -/
theorem Steps.outcome_eq (steps : Steps importing store next after) :
    next.outcome = importing.outcome := by
  rw [outcome, finish_outcome next .empty after, steps.finish_eq, finish_outcome importing store,
    outcome]

/-- The rest of an import at its beginning is the whole import. -/
theorem importRows_eq_finish {request : ImportRequest} {sheets : SheetRows}
    (given : request.rows = some sheets) (registry : Registry) (store : Store) :
    importRows request registry store =
      (importAnswer ((start request registry).finish store).1,
        ((start request registry).finish store).2) := by
  rw [finish, start, given]
  simp only [importRows, given]
  rfl

theorem outcome_start {request : ImportRequest} {sheets : SheetRows}
    (given : request.rows = some sheets) (registry : Registry) (store : Store) :
    importAnswer (start request registry).outcome = (importRows request registry store).1 := by
  rw [importRows_eq_finish given, outcome, finish_outcome _ .empty store]

/-- An import that has no steps left has ended. -/
theorem phase_of_stepsLeft (noneLeft : importing.stepsLeft = 0) :
    ∃ outcome, importing.phase = .ended outcome := by
  unfold stepsLeft at noneLeft
  split at noneLeft
  · cases noneLeft
  · cases noneLeft
  · next outcome ended => exact ⟨outcome, ended⟩

/-- The answer of an import that has ended is that of its outcome. -/
theorem answer?_eq {answer : Answer ImportSummary} (ended : importing.answer? = some answer) :
    answer = importAnswer importing.outcome := by
  unfold answer? at ended
  split at ended
  · next outcome phase =>
    rw [Importing.outcome, finish, phase]
    exact (Option.some.inj ended).symm
  · cases ended

/-- An import and the store after a number of steps, if nothing else uses the store. -/
def alone (importing : Importing) (store : Store) (steps : Nat) : Importing × Store :=
  (fun current => current.1.step current.2)^[steps] (importing, store)

/-- Steps that an import takes alone are the beginning of the rest of it. -/
theorem finish_alone (importing : Importing) (store : Store) (steps : Nat) :
    (importing.alone store steps).1.finish (importing.alone store steps).2 =
      importing.finish store := by
  unfold alone
  induction steps with
  | zero => rfl
  | succ steps inductionHypothesis =>
    rw [Function.iterate_succ_apply', ← inductionHypothesis]
    exact (steps_step _ _).finish_eq

theorem stepsLeft_alone (importing : Importing) (store : Store) (steps : Nat) :
    (importing.alone store steps).1.stepsLeft ≤ importing.stepsLeft - steps := by
  unfold alone
  induction steps with
  | zero => exact Nat.le_refl _
  | succ steps inductionHypothesis =>
    rw [Function.iterate_succ_apply']
    refine (steps_step _ _).stepsLeft_le.trans ?_
    omega

theorem stepsLeft_start {request : ImportRequest} {sheets : SheetRows}
    (given : request.rows = some sheets) (registry : Registry) :
    (start request registry).stepsLeft = 2 * sheets.length + 1 := by
  rw [start, given]
  rfl

/-- An import that is left alone answers and stores what `importRows` does. -/
theorem alone_eq_importRows {request : ImportRequest} {sheets : SheetRows}
    (given : request.rows = some sheets) (registry : Registry) (store : Store) {steps : Nat}
    (enough : 2 * sheets.length < steps) :
    ((start request registry).alone store steps).1.answer? =
        some (importRows request registry store).1 ∧
      ((start request registry).alone store steps).2 = (importRows request registry store).2 := by
  have noneLeft : ((start request registry).alone store steps).1.stepsLeft = 0 := by
    have bound := stepsLeft_alone (start request registry) store steps
    rw [stepsLeft_start given] at bound
    omega
  obtain ⟨outcome, ended⟩ := phase_of_stepsLeft noneLeft
  have finished := finish_alone (start request registry) store steps
  rw [finish, ended] at finished
  rw [importRows_eq_finish given, ← finished, answer?, ended]
  exact ⟨rfl, rfl⟩

end Importing

/-- The batches with rows among those before the first failure. -/
def keptBatches (batches : List (Except Failure (List Row))) : List (List Row) :=
  (takenBatches .empty batches).filter fun batch => !batch.isEmpty

/-- All stores take the same batches. -/
theorem isTaken_congr (store other : Store) (batch : Except Failure (List Row)) :
    isTaken store batch = isTaken other batch := by
  cases batch with
  | error failure => rfl
  | ok rows => rw [isTaken_ok, isTaken_ok]

theorem keptBatches_cons_of_refused {batch : Except Failure (List Row)}
    (batches : List (Except Failure (List Row))) (refused : isTaken .empty batch = false) :
    keptBatches (batch :: batches) = [] := by
  rw [keptBatches, takenBatches_cons_of_not_taken _ refused, List.filter_nil]

theorem keptBatches_cons_of_taken {batch : List Row}
    (batches : List (Except Failure (List Row))) (taken : isTaken .empty (.ok batch) = true) :
    keptBatches (.ok batch :: batches) =
      [batch].filter (fun batch => !batch.isEmpty) ++ keptBatches batches := by
  rw [keptBatches, takenBatches_cons_of_taken _ taken, ← List.singleton_append,
    List.filter_append, keptBatches]

namespace Importing

variable {importing next : Importing} {store after : Store}

/-- The batches that an import has still to store. -/
def pending (importing : Importing) : List (List Row) :=
  match importing.phase with
  | .selecting sheets _ =>
    keptBatches (sheetBatches importing.registry importing.errors sheets)
  | .storing batch rest _ =>
    keptBatches (.ok batch :: sheetBatches importing.registry importing.errors rest)
  | .ended _ => []

/-- The rows that the next step hands to the store and that the store takes. -/
def handed (importing : Importing) (store : Store) : List Row :=
  match importing.phase with
  | .storing batch _ _ => if isTaken store (.ok batch) then batch else []
  | _ => []

/-- What a step adds to the store are whole batches from the front of those that are pending, which
hold the rows that it hands to the store. -/
theorem Steps.pending_eq (steps : Steps importing store next after) :
    ∃ added, importing.pending = added ++ next.pending ∧ store.GrowsBy added.flatten after ∧
      added.flatten = importing.handed store := by
  cases steps with
  | done phase => exact ⟨[], by rw [pending, phase]; rfl, .refl store, by rw [handed, phase]; rfl⟩
  | unselected phase failed =>
    refine ⟨[], ?_, .refl store, by rw [handed, phase]; rfl⟩
    rw [pending, phase]
    dsimp only
    rw [sheetBatches, List.map_cons, failed, keptBatches_cons_of_refused _ rfl]
    rfl
  | skipped phase empty =>
    refine ⟨[], ?_, .refl store, by rw [handed, phase]; rfl⟩
    rw [pending, phase]
    dsimp only
    rw [sheetBatches, List.map_cons, empty, keptBatches_cons_of_taken _ rfl]
    rfl
  | selected phase given some =>
    refine ⟨[], ?_, .refl store, by rw [handed, phase]; rfl⟩
    rw [pending, phase]
    dsimp only
    rw [sheetBatches, List.map_cons, given]
    rfl
  | @refused batch _ _ _ phase inserted =>
    have refused : isTaken store (.ok batch) = false := by
      rw [isTaken, inserted]
      rfl
    refine ⟨[], ?_, .refl store, by simp [handed, phase, refused]⟩
    rw [pending, phase]
    dsimp only
    rw [keptBatches_cons_of_refused _ ((isTaken_congr .empty store _).trans refused)]
    rfl
  | @stored batch _ _ _ phase inserted grows =>
    have taken : isTaken store (.ok batch) = true := by
      rw [isTaken, inserted]
      rfl
    have flat : ([batch].filter fun batch => !batch.isEmpty).flatten = batch := by
      rw [List.flatten_filter_not_isEmpty, List.flatten_singleton]
    refine ⟨[batch].filter fun batch => !batch.isEmpty, ?_, flat.symm ▸ grows, ?_⟩
    · rw [pending, phase]
      dsimp only
      exact keptBatches_cons_of_taken _ ((isTaken_congr .empty store _).trans taken)
    · rw [flat]
      simp [handed, phase, taken]
  | stopped phase => exact ⟨[], rfl, .refl store, by rw [handed, phase]; rfl⟩

/-- Imports that have ended have nothing pending. -/
theorem pending_of_answer? (ended : importing.answer?.isSome = true) : importing.pending = [] := by
  unfold answer? at ended
  unfold pending
  split at ended
  · next outcome phase => rw [phase]
  · cases ended

end Importing

end SheetIntake.Service
