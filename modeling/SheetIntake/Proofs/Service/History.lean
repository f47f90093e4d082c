import SheetIntake.Proofs.Service.ImportRun
import SheetIntake.Proofs.Store.Invariant
import SheetIntake.Service.Http

/-!
# Histories of the service

A history is any sequence of actions: batches stored directly, imports, uploads and exports, and
requests of any kind on any path, each with inputs of its own. The store after a history starts from
nothing. Every action lets the store grow in the sense of `Store.Grows`, so after every history the
store is sound, and the records that it has stay where they are and as they are.
-/

namespace SheetIntake.Service

open Calendar Workbook

/-- What the service can be asked to do. -/
inductive Action where
  | insert (rows : List Row)
  | importRows (request : ImportRequest) (registry : Registry)
  | upload (site : Site) (file : Option File) (registry : Registry) (limit : Int) (now : DateTime)
  | exportRows (request : ExportRequest)
  | serve (context : HttpContext) (request : HttpRequest)

/-- What the service answers. -/
inductive ActionAnswer where
  | inserted (outcome : Except BatchFailure Nat)
  | imported (answer : Answer ImportSummary)
  | uploaded (answer : Answer WorkbookReview)
  | exported (answer : Answer (List Grid))
  | served (response : HttpResponse)

namespace Action

/-- The answer to an action, and the store after it. -/
def run (store : Store) : Action → ActionAnswer × Store
  | insert rows =>
    let outcome := store.insertBatch rows
    (.inserted outcome.1, outcome.2)
  | importRows request registry =>
    let outcome := Service.importRows request registry store
    (.imported outcome.1, outcome.2)
  | upload site file registry limit now =>
    (.uploaded (Service.upload site file registry limit now), store)
  | exportRows request => (.exported (Service.exportRows request), store)
  | serve context request =>
    let outcome := handle context request store
    (.served outcome.1, outcome.2)

/-- Whether an action is there to store rows. Of the requests these are the ones on the path for
sending rows. -/
def isStoring : Action → Bool
  | insert _ | importRows _ _ => true
  | upload _ _ _ _ _ | exportRows _ => false
  | serve _ request => Route.ofPath? request.path == some .importRows

end Action

/-- The store after a history, from a store at its beginning. -/
def storeAfter (store : Store) (history : List Action) : Store :=
  history.foldl (fun current action => (action.run current).2) store

theorem grows_importRows (request : ImportRequest) (registry : Registry) (store : Store) :
    Store.Grows store (importRows request registry store).2 := by
  cases given : request.rows with
  | none =>
    simp only [importRows, given]
    exact .refl store
  | some sheets =>
    obtain ⟨records, stored, last, _⟩ :=
      importSheets_run registry (request.errors.getD []) store store 0 sheets
    simp only [importRows, given]
    exact ⟨_, records, stored, last⟩

/-- Only requests to import can change the store, and they do so as imports. -/
theorem store_handle (context : HttpContext) (request : HttpRequest) (store : Store) :
    (handle context request store).2 = store ∨
      Route.ofPath? request.path = some .importRows ∧
        ∃ posted, (handle context request store).2 =
          (importRows posted context.registry store).2 := by
  unfold handle
  cases path : Route.ofPath? request.path with
  | none => exact .inl rfl
  | some route =>
    dsimp only
    split
    · unfold Route.handle
      cases route with
      | health => exact .inl rfl
      | upload =>
        left
        dsimp only
        split <;> rfl
      | importRows =>
        dsimp only
        split
        · exact .inl rfl
        · next posted _ => exact .inr ⟨rfl, posted, rfl⟩
      | exportRows =>
        left
        dsimp only
        split <;> rfl
    · exact .inl rfl

namespace Action

/-- Every action lets the store grow. -/
theorem grows_run (store : Store) (action : Action) :
    Store.Grows store (action.run store).2 := by
  cases action with
  | insert rows => exact store.grows_insertBatch rows
  | importRows request registry => exact grows_importRows request registry store
  | upload site file registry limit now => exact .refl store
  | exportRows request => exact .refl store
  | serve context request =>
    simp only [run]
    rcases store_handle context request store with unchanged | ⟨_, posted, changed⟩
    · rw [unchanged]
      exact .refl store
    · rw [changed]
      exact grows_importRows posted context.registry store

/-- An action that is not there to store rows leaves the store as it was. -/
theorem store_run_of_not_storing {action : Action} (reads : action.isStoring = false)
    (store : Store) : (action.run store).2 = store := by
  cases action with
  | insert rows => cases reads
  | importRows request registry => cases reads
  | upload site file registry limit now => rfl
  | exportRows request => rfl
  | serve context request =>
    simp only [run]
    rcases store_handle context request store with unchanged | ⟨path, _⟩
    · exact unchanged
    · simp [isStoring, path] at reads

end Action

/-- A sound store is sound after every history. -/
theorem sound_storeAfter {store : Store} (sound : store.Sound) (history : List Action) :
    (storeAfter store history).Sound := by
  induction history generalizing store with
  | nil => exact sound
  | cons action rest inductionHypothesis =>
    exact inductionHypothesis (sound.of_grows (action.grows_run store))

/-- After any history from the empty store, the records are sound and numbered from one on in the
order in which they were added. One more action keeps all of them, unchanged and in front, and an
upload, an export or a request on a path other than that of imports adds none. -/
theorem store_sound_after_every_history (history : List Action) :
    (storeAfter .empty history).Sound ∧
      ∀ action : Action,
        (storeAfter .empty history).records <+:
            (storeAfter .empty (history ++ [action])).records ∧
          (action.isStoring = false →
            storeAfter .empty (history ++ [action]) = storeAfter .empty history) := by
  refine ⟨sound_storeAfter Store.sound_empty history, fun action => ?_⟩
  have step : storeAfter .empty (history ++ [action]) =
      (action.run (storeAfter .empty history)).2 := by
    rw [storeAfter, List.foldl_append]
    rfl
  rw [step]
  refine ⟨(action.grows_run _).isPrefix, fun reads => ?_⟩
  exact Action.store_run_of_not_storing reads _

/-- A row with a field that no record has, a batch whose second amount is not a number, and the
run over sheets that keeps the first of them. -/
def mixedHistory : List Action :=
  [.insert [[("id", .int 99), ("name", .text "Dan"), ("amount", .int 3),
      ("date", .text "2024-01-14T10:00:00+02:00"), ("verified", .text "Yes")]],
    .insert [[("name", .text "Gil"), ("amount", .int 4), ("date", .text "2024-01-15")],
      [("name", .text "Hal"), ("amount", .text "nan"), ("date", .text "2024-01-15")]],
    .importRows ⟨none, some sheetsWithBrokenThird, none⟩ .builtin]

theorem store_sound_after_mixed_history :
    (storeAfter .empty mixedHistory).records.length = 2 ∧
      (storeAfter .empty mixedHistory).Sound ∧
      (Action.exportRows ⟨none, none⟩).isStoring = false ∧
      storeAfter .empty (mixedHistory ++ [.exportRows ⟨none, none⟩]) =
        storeAfter .empty mixedHistory := by
  obtain ⟨sound, later⟩ := store_sound_after_every_history mixedHistory
  obtain ⟨_, unchanged⟩ := later (.exportRows ⟨none, none⟩)
  exact ⟨by decide, sound, rfl, unchanged rfl⟩

end SheetIntake.Service
