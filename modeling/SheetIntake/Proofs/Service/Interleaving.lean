import Mathlib.Data.List.Flatten
import Mathlib.Logic.Function.Basic
import SheetIntake.Proofs.Service.Importing

/-!
# Two imports at once

Two imports use one store in turns, and each turn is one step of one of them. Since what one does to
the store changes neither how the other ends nor what the other has still to store, each has the
answer that it has alone, whatever the order of the turns. The store gets the batches of both:
`Merges` says that those of each keep their order and that each stays in one piece.
-/

namespace SheetIntake

/-- A list of the items of two lists, those of each in their order. -/
inductive Merges {α : Type} : List α → List α → List α → Prop
  | nil : Merges [] [] []
  | first {item : α} {left right merged : List α} (rest : Merges left right merged) :
    Merges (item :: left) right (item :: merged)
  | second {item : α} {left right merged : List α} (rest : Merges left right merged) :
    Merges left (item :: right) (item :: merged)

namespace Merges

variable {α β : Type} {left right merged : List α}

theorem append_first (front : List α) (rest : Merges left right merged) :
    Merges (front ++ left) right (front ++ merged) := by
  induction front with
  | nil => exact rest
  | cons item front inductionHypothesis => exact .first inductionHypothesis

theorem append_second (front : List α) (rest : Merges left right merged) :
    Merges left (front ++ right) (front ++ merged) := by
  induction front with
  | nil => exact rest
  | cons item front inductionHypothesis => exact .second inductionHypothesis

theorem map (change : α → β) (merges : Merges left right merged) :
    Merges (left.map change) (right.map change) (merged.map change) := by
  induction merges with
  | nil => exact .nil
  | first rest inductionHypothesis => exact .first inductionHypothesis
  | second rest inductionHypothesis => exact .second inductionHypothesis

/-- No item is lost and none is there twice. -/
theorem perm (merges : Merges left right merged) : merged.Perm (left ++ right) := by
  induction merges with
  | nil => exact .refl []
  | first rest inductionHypothesis => exact inductionHypothesis.cons _
  | second rest inductionHypothesis => exact List.perm_cons_append_cons _ inductionHypothesis

end Merges

/-- What a record holds apart from its identifier. -/
def Record.content (record : Record) : Record :=
  { record with identifier := 0 }

/-- The contents of the records of rows are those of the rows. -/
theorem Record.map_content {first : Nat} {rows : List Row} {records : List Record}
    (stored : ofRows? first rows = some records) :
    records.map content = rows.filterMap Row.content? := by
  have contents := congrArg (List.filterMap id) (contents_ofRows? stored)
  rw [List.filterMap_map, List.filterMap_map] at contents
  rw [← List.filterMap_eq_map]
  exact contents.symm

namespace Service

open Selection

/-- One of two imports. -/
inductive Side where
  | first
  | second
  deriving DecidableEq, Repr

/-- Two imports under way and the store that they use. -/
structure TwoImports where
  imports : Side → Importing
  store : Store

namespace TwoImports

/-- Two imports at their beginning. -/
def start (first second : ImportRequest) (registry : Registry) (store : Store) : TwoImports where
  imports
    | .first => Importing.start first registry
    | .second => Importing.start second registry
  store := store

/-- One import takes a step, which is nothing when it has ended. -/
def turn (current : TwoImports) (side : Side) : TwoImports :=
  let taken := (current.imports side).step current.store
  ⟨Function.update current.imports side taken.1, taken.2⟩

/-- The imports take steps in a given order. -/
def run (current : TwoImports) (turns : List Side) : TwoImports :=
  turns.foldl turn current

/-- Whether both imports have ended. -/
def IsOver (current : TwoImports) : Prop :=
  ∀ side, (current.imports side).answer?.isSome = true

variable {current : TwoImports} {side : Side}

theorem imports_turn_self (current : TwoImports) (side : Side) :
    (current.turn side).imports side = ((current.imports side).step current.store).1 :=
  Function.update_self side _ _

theorem steps_turn (current : TwoImports) (side : Side) :
    (current.imports side).Steps current.store ((current.turn side).imports side)
      (current.turn side).store := by
  rw [imports_turn_self]
  exact Importing.steps_step _ _

theorem imports_turn_of_ne {other : Side} (differs : other ≠ side) :
    (current.turn side).imports other = current.imports other :=
  Function.update_of_ne differs _ _

/-- Whoever takes a turn, each import ends as it would have. -/
theorem outcome_turn (current : TwoImports) (side other : Side) :
    ((current.turn side).imports other).outcome = (current.imports other).outcome := by
  by_cases same : other = side
  · subst same
    exact (steps_turn current other).outcome_eq
  · rw [imports_turn_of_ne same]

theorem outcome_run (current : TwoImports) (turns : List Side) (side : Side) :
    ((current.run turns).imports side).outcome = (current.imports side).outcome := by
  induction turns generalizing current with
  | nil => rfl
  | cons turn rest inductionHypothesis =>
    exact (inductionHypothesis (current.turn turn)).trans (outcome_turn current turn side)

/-- An import has come nearer to its end by the turns that it had. -/
theorem stepsLeft_run (current : TwoImports) (turns : List Side) (side : Side) :
    ((current.run turns).imports side).stepsLeft ≤
      (current.imports side).stepsLeft - turns.count side := by
  induction turns generalizing current with
  | nil => exact Nat.le_refl _
  | cons turn rest inductionHypothesis =>
    refine (inductionHypothesis (current.turn turn)).trans ?_
    by_cases same : side = turn
    · subst same
      have nearer := (steps_turn current side).stepsLeft_le
      rw [List.count_cons_self]
      omega
    · rw [imports_turn_of_ne same, List.count_cons_of_ne (Ne.symm same)]

/-- An import that has ended has the answer that it would have had. -/
theorem answer?_run {turns : List Side}
    (ended : ((current.run turns).imports side).answer?.isSome = true) :
    ((current.run turns).imports side).answer? =
      some (importAnswer (current.imports side).outcome) := by
  obtain ⟨answer, answered⟩ := Option.isSome_iff_exists.mp ended
  rw [answered, Importing.answer?_eq answered, outcome_run]

/-- An import that has had as many turns as it takes steps has ended. -/
theorem ended_run {turns : List Side}
    (enough : (current.imports side).stepsLeft ≤ turns.count side) :
    ((current.run turns).imports side).answer?.isSome = true := by
  have noneLeft : ((current.run turns).imports side).stepsLeft = 0 := by
    have bound := stepsLeft_run current turns side
    omega
  obtain ⟨outcome, phase⟩ := Importing.phase_of_stepsLeft noneLeft
  rw [Importing.answer?, phase]
  rfl

/-- Turns add to the store whole batches from the front of those that each import has pending, those
of each import in their order. -/
theorem merges_run (current : TwoImports) (turns : List Side) :
    ∃ first second merged, Merges first second merged ∧
      (current.imports .first).pending = first ++ ((current.run turns).imports .first).pending ∧
      (current.imports .second).pending =
        second ++ ((current.run turns).imports .second).pending ∧
      current.store.GrowsBy merged.flatten (current.run turns).store := by
  induction turns generalizing current with
  | nil => exact ⟨[], [], [], .nil, rfl, rfl, .refl _⟩
  | cons turn rest inductionHypothesis =>
    obtain ⟨first, second, merged, merges, firstPending, secondPending, grows⟩ :=
      inductionHypothesis (current.turn turn)
    obtain ⟨added, pending, addedGrows, _⟩ := (steps_turn current turn).pending_eq
    have allGrows := addedGrows.trans grows
    rw [← List.flatten_append] at allGrows
    cases turn with
    | first =>
      refine ⟨added ++ first, second, added ++ merged, merges.append_first added, ?_, ?_, allGrows⟩
      · rw [pending, firstPending, List.append_assoc]
        rfl
      · have untouched : (current.turn .first).imports .second = current.imports .second :=
          imports_turn_of_ne Side.noConfusion
        rw [← untouched, secondPending]
        rfl
    | second =>
      refine ⟨first, added ++ second, added ++ merged, merges.append_second added, ?_, ?_,
        allGrows⟩
      · have untouched : (current.turn .second).imports .first = current.imports .first :=
          imports_turn_of_ne Side.noConfusion
        rw [← untouched, firstPending]
        rfl
      · rw [pending, secondPending, List.append_assoc]
        rfl

end TwoImports

/-- What the records of each batch hold that an import stores when it is alone. -/
def ImportRequest.keptContents (request : ImportRequest) (registry : Registry) :
    List (List Record) :=
  (keptBatches (request.batches registry)).map (List.filterMap Row.content?)

/-- An import alone on the empty store leaves the contents of its batches. -/
theorem content_importRows {request : ImportRequest} {sheets : SheetRows}
    (given : request.rows = some sheets) (registry : Registry) :
    (importRows request registry .empty).2.records.map Record.content =
      (request.keptContents registry).flatten := by
  obtain ⟨records, stored, outcome⟩ := importRows_run given registry .empty .empty
  rw [outcome, ImportRequest.keptContents, ← List.filterMap_flatten, keptBatches,
    List.flatten_filter_not_isEmpty, ← Record.map_content stored]
  rfl

/-- Two imports at once do not disturb each other, in whatever order they take their turns. Each
ends when it has had enough turns. When both have ended, each has the answer that it has alone on
the empty store, and the store has new records at its end: apart from their identifiers these are
the records that each import stores alone, batch for batch in whole, each in its order, and none
lost or there twice. The new identifiers follow one another and are above all that were there
before. -/
theorem two_imports_do_not_disturb {first second : ImportRequest}
    {firstSheets secondSheets : SheetRows} (firstGiven : first.rows = some firstSheets)
    (secondGiven : second.rows = some secondSheets) (registry : Registry) (store : Store)
    (turns : List Side) :
    let reached := (TwoImports.start first second registry store).run turns
    let firstAlone := importRows first registry .empty
    let secondAlone := importRows second registry .empty
    (2 * firstSheets.length < turns.count .first → 2 * secondSheets.length < turns.count .second →
      reached.IsOver) ∧
    (reached.IsOver →
      (reached.imports .first).answer? = some firstAlone.1 ∧
      (reached.imports .second).answer? = some secondAlone.1 ∧
      ∃ added merged, reached.store = ⟨store.records ++ added⟩ ∧
        added.map Record.content = merged.flatten ∧
        Merges (first.keptContents registry) (second.keptContents registry) merged ∧
        (first.keptContents registry).flatten = firstAlone.2.records.map Record.content ∧
        (second.keptContents registry).flatten = secondAlone.2.records.map Record.content ∧
        (added.map Record.content).Perm ((firstAlone.2.records ++ secondAlone.2.records).map
          Record.content) ∧
        added.map Record.identifier = List.range' store.nextIdentifier added.length ∧
        ∀ new ∈ added, ∀ old ∈ store.records, old.identifier < new.identifier) := by
  intro reached firstAlone secondAlone
  refine ⟨fun firstEnough secondEnough => ?_, fun bothOver => ?_⟩
  · intro side
    apply TwoImports.ended_run
    cases side with
    | first => exact (Importing.stepsLeft_start firstGiven registry).trans_le firstEnough
    | second => exact (Importing.stepsLeft_start secondGiven registry).trans_le secondEnough
  · obtain ⟨firstStored, secondStored, merged, merges, firstPending, secondPending, records, stored,
      last⟩ := TwoImports.merges_run (TwoImports.start first second registry store) turns
    rw [Importing.pending_of_answer? (bothOver .first), List.append_nil] at firstPending
    rw [Importing.pending_of_answer? (bothOver .second), List.append_nil] at secondPending
    have firstBatches : firstStored = keptBatches (first.batches registry) := firstPending.symm
    have secondBatches : secondStored = keptBatches (second.batches registry) :=
      secondPending.symm
    have contents := merges.map (List.filterMap Row.content?)
    rw [firstBatches, secondBatches] at contents
    have added : records.map Record.content =
        (merged.map (List.filterMap Row.content?)).flatten := by
      rw [Record.map_content stored, List.filterMap_flatten]
    have numbers := Record.identifiers_ofRows? stored
    refine ⟨?_, ?_, records, _, last, added, contents,
      (content_importRows firstGiven registry).symm,
      (content_importRows secondGiven registry).symm, ?_, numbers, ?_⟩
    · rw [TwoImports.answer?_run (bothOver .first)]
      exact congrArg some (Importing.outcome_start firstGiven registry .empty)
    · rw [TwoImports.answer?_run (bothOver .second)]
      exact congrArg some (Importing.outcome_start secondGiven registry .empty)
    · rw [added, List.map_append, content_importRows firstGiven,
        content_importRows secondGiven, ← List.flatten_append]
      exact contents.perm.flatten
    · intro new newPresent old oldPresent
      have inRange := List.mem_map_of_mem (f := Record.identifier) newPresent
      rw [numbers, List.mem_range'_1] at inRange
      exact (Store.lt_nextIdentifier oldPresent).trans_le inRange.1

/-- Two sheets with one row each. -/
def twoSheets : SheetRows :=
  [("North", some [[("name", .text "Kim"), ("amount", .int 3), ("date", .text "2024-02-01")]]),
    ("South", some [[("name", .text "Lee"), ("amount", .int 4), ("date", .text "2024-02-02")]])]

/-- The request for these sheets alone. -/
def importOfTwoSheets : ImportRequest := ⟨some twoSheets, none, none⟩

/-- Turns that alternate. -/
def alternateTurns : List Side := (List.replicate 9 [Side.second, Side.first]).flatten

theorem failing_import_does_not_disturb :
    importOfBrokenThird.rows = some sheetsWithBrokenThird ∧
      importOfTwoSheets.rows = some twoSheets ∧
      let reached := (TwoImports.start importOfBrokenThird importOfTwoSheets .builtin .empty).run
        alternateTurns
      reached.IsOver ∧
        (reached.imports .first).answer? =
          some (.error (.serverError "Error importing data.")) ∧
        (reached.imports .second).answer? = some (.ok ⟨2⟩) ∧
        reached.store.records.length = 3 := by
  have firstGiven : importOfBrokenThird.rows = some sheetsWithBrokenThird := rfl
  have secondGiven : importOfTwoSheets.rows = some twoSheets := rfl
  obtain ⟨ends, whenOver⟩ :=
    two_imports_do_not_disturb firstGiven secondGiven .builtin .empty alternateTurns
  have bothOver := ends (by decide) (by decide)
  obtain ⟨firstAnswer, secondAnswer, added, _, reached, _, _, _, _, same, _⟩ := whenOver bothOver
  have firstAlone : (importRows importOfBrokenThird .builtin .empty).1 =
      .error (.serverError "Error importing data.") := by decide
  have secondAlone : (importRows importOfTwoSheets .builtin .empty).1 = .ok ⟨2⟩ := by decide
  have three : ((importRows importOfBrokenThird .builtin .empty).2.records ++
      (importRows importOfTwoSheets .builtin .empty).2.records).length = 3 := by decide
  have length := same.length_eq
  rw [List.length_map, List.length_map, three] at length
  refine ⟨firstGiven, secondGiven, bothOver, ?_, ?_, ?_⟩
  · rw [firstAnswer, firstAlone]
  · rw [secondAnswer, secondAlone]
  · rw [reached]
    exact length

end Service

end SheetIntake
