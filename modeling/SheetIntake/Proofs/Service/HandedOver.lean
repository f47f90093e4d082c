import SheetIntake.Proofs.Service.Importing

/-!
# What an import hands to the store

An import selects and stores sheet by sheet, and `Selection.ofSheets` selects the rows of all sheets
at once. `ImportRequest.handedOver` gathers the rows that an import hands to the store and that the
store takes, step by step. They are the front of the selection up to the end of a sheet: an import
leaves nothing out of a sheet and ends with the first sheet that is refused. All of the selection is
handed over exactly when the import has an answer.
-/

namespace SheetIntake.Service

open Selection

namespace Importing

/-- The rows that an import hands to the store in some steps, if nothing else uses the store, and
that the store takes. -/
def handedOver (importing : Importing) (store : Store) : Nat → List Row
  | 0 => []
  | steps + 1 =>
    importing.handed store ++ (importing.step store).1.handedOver (importing.step store).2 steps

theorem alone_succ (importing : Importing) (store : Store) (steps : Nat) :
    importing.alone store (steps + 1) =
      (importing.step store).1.alone (importing.step store).2 steps :=
  Function.iterate_succ_apply _ _ _

/-- What is handed over in some steps comes from the front of what is pending, and it is what the
store grows by. -/
theorem pending_alone (importing : Importing) (store : Store) (steps : Nat) :
    importing.pending.flatten =
        importing.handedOver store steps ++ (importing.alone store steps).1.pending.flatten ∧
      store.GrowsBy (importing.handedOver store steps) (importing.alone store steps).2 := by
  induction steps generalizing importing store with
  | zero => exact ⟨rfl, .refl store⟩
  | succ steps inductionHypothesis =>
    obtain ⟨added, pending, grows, handed⟩ := (steps_step importing store).pending_eq
    obtain ⟨restPending, restGrows⟩ :=
      inductionHypothesis (importing.step store).1 (importing.step store).2
    rw [handed] at grows
    rw [alone_succ, handedOver, pending, List.flatten_append, handed, restPending,
      List.append_assoc]
    exact ⟨rfl, grows.trans restGrows⟩

end Importing

/-- The rows that an import hands to the store, if nothing else uses the store, and that the store
takes, from the beginning of the import to its end. -/
def ImportRequest.handedOver (request : ImportRequest) (registry : Registry) (store : Store) :
    List Row :=
  (Importing.start request registry).handedOver store (Importing.start request registry).stepsLeft

/-- An import hands over the batches before the first that is not taken, and these are what it adds
to the store. -/
theorem handedOver_eq {request : ImportRequest} {sheets : SheetRows}
    (given : request.rows = some sheets) (registry : Registry) (store : Store) :
    request.handedOver registry store =
        (takenBatches .empty (request.batches registry)).flatten ∧
      store.GrowsBy (request.handedOver registry store) (importRows request registry store).2 := by
  have enough : 2 * sheets.length < (Importing.start request registry).stepsLeft := by
    rw [Importing.stepsLeft_start given]
    omega
  obtain ⟨answered, last⟩ := Importing.alone_eq_importRows given registry store enough
  obtain ⟨pending, grows⟩ := Importing.pending_alone (Importing.start request registry) store
    (Importing.start request registry).stepsLeft
  have nothingLeft := Importing.pending_of_answer? (answered ▸ Option.isSome_some)
  rw [nothingLeft, List.flatten_nil, List.append_nil] at pending
  rw [last] at grows
  refine ⟨?_, grows⟩
  rw [ImportRequest.handedOver, ← pending]
  exact List.flatten_filter_not_isEmpty

/-- Where all sheets have one key field, the selection of all sheets is that of each sheet. -/
theorem ofSheets_eq_ok_iff_batches {registry : Registry} {errors : SheetErrors}
    {keyField : String} {data : SheetRows} {selected : List Row}
    (keyed : ∀ entry ∈ data, (registry.resolve entry.1).keyField = keyField) :
    ofSheets data errors keyField = .ok selected ↔
      ∃ batches : List (List Row), sheetBatches registry errors data = batches.map .ok ∧
        selected = batches.flatten := by
  have sheetwise : ofSheets data errors keyField =
      (data.mapM fun entry => sheetBatch registry errors entry.1 entry.2) >>=
        fun batches => .ok batches.flatten := by
    unfold ofSheets
    refine congrArg (Except.bind · fun batches => .ok (List.flatten batches)) ?_
    apply Outcome.mapM_congr
    rintro ⟨sheet, rows⟩ present
    unfold sheetBatch
    rw [keyed _ present]
    rfl
  have listed : ∀ batches : List (List Row),
      (data.mapM fun entry => sheetBatch registry errors entry.1 entry.2) = .ok batches ↔
        sheetBatches registry errors data = batches.map .ok := by
    intro batches
    rw [Outcome.mapM_eq_ok_iff, sheetBatches, ← List.forall₂_eq_eq_eq,
      List.forall₂_map_left_iff, List.forall₂_map_right_iff]
  rw [sheetwise, Outcome.bind_eq_ok_iff]
  simp [listed, eq_comm]

/-- All rows of some batches are taken exactly when all the batches are, because a batch that is
refused has rows. -/
theorem flatten_takeWhile_eq_iff (store : Store) (batches : List (List Row)) :
    (batches.takeWhile fun batch => isTaken store (.ok batch)).flatten = batches.flatten ↔
      (batches.map Except.ok).all (isTaken store) = true := by
  induction batches with
  | nil => simp
  | cons batch rest inductionHypothesis =>
    cases taken : isTaken store (.ok batch) with
    | true => simpa [taken] using inductionHypothesis
    | false =>
      have rows : batch ≠ [] := by
        rintro rfl
        simp [isTaken_ok] at taken
      simp [taken, rows]

/-- What is handed over of a selection is the selection of the sheets before some place. -/
theorem handedOver_of_selected {request : ImportRequest} {data : SheetRows}
    (given : request.rows = some data) {registry : Registry} {keyField : String}
    (keyed : ∀ entry ∈ data, (registry.resolve entry.1).keyField = keyField)
    {batches : List (List Row)}
    (selected : sheetBatches registry (request.errors.getD []) data = batches.map .ok)
    (store : Store) :
    ∃ before after rest, data = before ++ after ∧
      ofSheets before (request.errors.getD []) keyField =
        .ok (request.handedOver registry store) ∧
      ofSheets after (request.errors.getD []) keyField = .ok rest ∧
      batches.flatten = request.handedOver registry store ++ rest := by
  have shape : request.batches registry = batches.map .ok := by
    rw [ImportRequest.batches, given, Option.getD_some, selected]
  rw [(handedOver_eq given registry store).1, shape, takenBatches_map_ok]
  generalize (fun batch => isTaken Store.empty (.ok batch)) = taken
  rw [← List.takeWhile_append_dropWhile (p := taken) (l := batches), List.map_append,
    sheetBatches, List.map_eq_append_iff] at selected
  obtain ⟨before, after, rfl, beforeSelected, afterSelected⟩ := selected
  obtain ⟨beforeKeyed, afterKeyed⟩ := List.forall_mem_append.mp keyed
  refine ⟨before, after, (batches.dropWhile taken).flatten, rfl, ?_, ?_, ?_⟩
  · exact (ofSheets_eq_ok_iff_batches beforeKeyed).mpr ⟨_, beforeSelected, rfl⟩
  · exact (ofSheets_eq_ok_iff_batches afterKeyed).mpr ⟨_, afterSelected, rfl⟩
  · rw [← List.flatten_append, List.takeWhile_append_dropWhile]

/-- An import agrees with the selection of all its sheets, where these have one key field. The rows
that it hands to the store and that the store takes are the selection of the sheets before some
place, so they are the front of the whole selection up to the end of a sheet, and the store grows by
their records. Either they are the whole selection, and the import answers with their number; or
some are missing, and the server has failed. -/
theorem importRows_agrees_with_selection {request : ImportRequest} {data : SheetRows}
    (given : request.rows = some data) {registry : Registry} {keyField : String}
    (keyed : ∀ entry ∈ data, (registry.resolve entry.1).keyField = keyField)
    {selected : List Row}
    (answered : ofSheets data (request.errors.getD []) keyField = .ok selected) (store : Store) :
    let handed := request.handedOver registry store
    (∃ before after rest, data = before ++ after ∧
        ofSheets before (request.errors.getD []) keyField = .ok handed ∧
        ofSheets after (request.errors.getD []) keyField = .ok rest ∧
        selected = handed ++ rest) ∧
      store.GrowsBy handed (importRows request registry store).2 ∧
      (handed = selected ∧ (importRows request registry store).1 = .ok ⟨selected.length⟩ ∨
        handed ≠ selected ∧ (importRows request registry store).1 =
          .error (.serverError "Error importing data.")) := by
  intro handed
  obtain ⟨batches, chosen, rfl⟩ := (ofSheets_eq_ok_iff_batches keyed).mp answered
  obtain ⟨handedRows, grows⟩ := handedOver_eq given registry store
  refine ⟨handedOver_of_selected given keyed chosen store, grows, ?_⟩
  have shape : request.batches registry = batches.map .ok := by
    rw [ImportRequest.batches, given, Option.getD_some, chosen]
  obtain ⟨records, _, outcome⟩ := importRows_run given registry store .empty
  rw [shape] at handedRows outcome
  have whole := flatten_takeWhile_eq_iff .empty batches
  rw [← takenBatches_map_ok, ← handedRows] at whole
  rw [outcome, ← handedRows]
  by_cases all : (batches.map Except.ok).all (isTaken .empty) = true
  · have same := whole.mpr all
    exact .inl ⟨same, by rw [if_pos all, same]⟩
  · exact .inr ⟨fun same => all (whole.mp same), if_neg all⟩

/-- A row with a name and an amount, and the same date as others. -/
def rowOfAmount (name : String) (amount : Value) : Row :=
  [("name", .text name), ("amount", amount), ("date", .text "2024-01-15")]

/-- Four sheets: the second has no rows, and a row of the third has no amount. -/
def sheetsOfFour : SheetRows :=
  [("First", some [rowOfAmount "Ann" (.int 5), rowOfAmount "Bob" (.int 0)]), ("Empty", none),
    ("Third", some [rowOfAmount "Eve" .null]), ("Last", some [rowOfAmount "Kim" (.float 2.5)])]

/-- The request for these sheets, with an error recorded for the second row of the first. -/
def importOfFour : ImportRequest :=
  ⟨some sheetsOfFour, none,
    some [("First", some [.value (.record [("row", .int 3)])]), ("Third", none)]⟩

/-- What is selected of these sheets. -/
def selectedOfFour : List Row :=
  [rowOfAmount "Ann" (.int 5), rowOfAmount "Eve" .null, rowOfAmount "Kim" (.float 2.5)]

theorem importRows_agrees_up_to_third_sheet :
    importOfFour.rows = some sheetsOfFour ∧
      (∀ entry ∈ sheetsOfFour, (Registry.builtin.resolve entry.1).keyField = "name") ∧
      ofSheets sheetsOfFour (importOfFour.errors.getD []) "name" = .ok selectedOfFour ∧
      let handed := importOfFour.handedOver .builtin .empty
      handed.length = 1 ∧
        (∃ before after rest, sheetsOfFour = before ++ after ∧
          ofSheets before (importOfFour.errors.getD []) "name" = .ok handed ∧
          ofSheets after (importOfFour.errors.getD []) "name" = .ok rest ∧
          selectedOfFour = handed ++ rest) ∧
        (importRows importOfFour .builtin .empty).1 =
          .error (.serverError "Error importing data.") := by
  have given : importOfFour.rows = some sheetsOfFour := rfl
  have keyed : ∀ entry ∈ sheetsOfFour,
      (Registry.builtin.resolve entry.1).keyField = "name" := by decide
  have answered : ofSheets sheetsOfFour (importOfFour.errors.getD []) "name" =
      .ok selectedOfFour := rfl
  have one : (importOfFour.handedOver .builtin .empty).length = 1 := by decide
  obtain ⟨split, _, ⟨whole, _⟩ | ⟨_, failed⟩⟩ :=
    importRows_agrees_with_selection given keyed answered .empty
  · rw [whole] at one
    cases one
  · exact ⟨given, keyed, answered, one, split, failed⟩

end SheetIntake.Service
