import SheetIntake.Proofs.Outcome
import SheetIntake.Workbook.Opened

/-!
# Which failures of reading are foreseen

Whatever comes of opening bytes, reading them answers when every worksheet is read to its end, and
reports them as no readable workbook when opening fails in one of the ways that are foreseen.
`Opened.Fails` has the failures that are left: opening fails in another way, or a worksheet is not
read. They are passed on, and nothing else is (`Opened.isReported_iff`).
-/

namespace SheetIntake.Workbook

/-- Opening fails in a way that is foreseen, for a reason. -/
inductive OpeningFailure.IsForeseen : OpeningFailure → String → Prop
  | unsupported (reason : String) : IsForeseen (.unsupported reason) reason
  | badArchive (reason : String) : IsForeseen (.badArchive reason) reason
  | missingKey (reason : String) : IsForeseen (.missingKey reason) reason
  | badValue (reason : String) : IsForeseen (.badValue reason) reason
  | system (reason : String) : IsForeseen (.system reason) reason

/-- Opening fails in a way that is foreseen, or in another one. -/
theorem OpeningFailure.cases_foreseen (failure : OpeningFailure) :
    (∃ reason, failure.IsForeseen reason) ∨ ∃ cause, failure = .other cause := by
  cases failure with
  | unsupported reason => exact .inl ⟨reason, .unsupported reason⟩
  | badArchive reason => exact .inl ⟨reason, .badArchive reason⟩
  | missingKey reason => exact .inl ⟨reason, .missingKey reason⟩
  | badValue reason => exact .inl ⟨reason, .badValue reason⟩
  | system reason => exact .inl ⟨reason, .system reason⟩
  | other cause => exact .inr ⟨cause, rfl⟩

/-- A failure that is foreseen is passed on with its reason. -/
theorem OpeningFailure.IsForeseen.passedOn_eq {failure : OpeningFailure} {reason : String}
    (foreseen : failure.IsForeseen reason) :
    failure.passedOn = .unreadable ("Failed to read Excel file: " ++ reason) := by
  cases foreseen <;> rfl

namespace Opened

/-- Opening or reading fails in a way that nobody foresaw. -/
inductive Fails : Opened → Failure → Prop
  /-- Opening fails in a way that is not foreseen. -/
  | opening (failure : Failure) : Fails (.error (.other failure)) failure
  /-- A worksheet is not read to its end, and all before it are. -/
  | reading (before : List Worksheet) (failure : Failure)
      (after : List (Except Failure Worksheet)) :
      Fails (.ok (before.map .ok ++ .error failure :: after)) failure

/-- The bytes are read, or reported as no readable workbook. -/
def IsReported (opened : Opened) : Prop :=
  (∃ sheets, opened.sheets = .ok sheets) ∨ ∃ message, opened.sheets = .error (.unreadable message)

variable {opened : Opened}

/-- Worksheets are read one after the other up to the first that fails. -/
theorem worksheets_of_reading (before : List Worksheet) (failure : Failure)
    (after : List (Except Failure Worksheet)) :
    worksheets (.ok (before.map .ok ++ .error failure :: after)) =
      .error (.unforeseen failure) := by
  refine Outcome.mapM_eq_error_iff.mpr ⟨before.map .ok, .error failure, after, rfl, ?_, rfl⟩
  intro earlier present
  obtain ⟨worksheet, _, rfl⟩ := List.mem_map.mp present
  exact ⟨worksheet, rfl⟩

/-- What is opened is not, or all its worksheets are read, or one of them is the first that is
not. -/
theorem cases_reading (opened : Opened) :
    (∃ failure, opened = .error failure) ∨
      (∃ worksheets : List Worksheet, opened = .ok (worksheets.map .ok)) ∨
      ∃ (before : List Worksheet) (failure : Failure) (after : _),
        opened = .ok (before.map .ok ++ .error failure :: after) := by
  cases opened with
  | error failure => exact .inl ⟨failure, rfl⟩
  | ok outcomes =>
    right
    induction outcomes with
    | nil => exact .inl ⟨[], rfl⟩
    | cons outcome rest inductionHypothesis =>
      cases outcome with
      | error failure => exact .inr ⟨[], failure, rest, rfl⟩
      | ok worksheet =>
        rcases inductionHypothesis with ⟨worksheets, all⟩ | ⟨before, failure, after, split⟩
        · cases all
          exact .inl ⟨worksheet :: worksheets, rfl⟩
        · cases split
          exact .inr ⟨worksheet :: before, failure, after, rfl⟩

/-- A failure that nobody foresaw is passed on. -/
theorem Fails.sheets_eq {failure : Failure} (fails : opened.Fails failure) :
    opened.sheets = .error (.unforeseen failure) := by
  refine Outcome.map_eq_error_iff.mpr ?_
  cases fails with
  | opening => rfl
  | reading before failure after => exact worksheets_of_reading before failure after

/-- A failure that is foreseen is reported with its reason. -/
theorem sheets_of_isForeseen {failure : OpeningFailure} {reason : String}
    (foreseen : failure.IsForeseen reason) :
    sheets (.error failure) =
      .error (.unreadable ("Failed to read Excel file: " ++ reason)) :=
  congrArg Except.error foreseen.passedOn_eq

/-- The worksheets of a workbook are read when each of them is. -/
theorem worksheets_of_read (read : List Worksheet) :
    worksheets (.ok (read.map .ok)) = .ok read := by
  refine Outcome.mapM_eq_ok_iff.mpr ?_
  rw [List.forall₂_map_left_iff, List.forall₂_same]
  exact fun worksheet _ => rfl

/-- All worksheets are read exactly when reading answers for each of them. -/
theorem worksheets_eq_ok_iff {read : List Worksheet} :
    opened.worksheets = .ok read ↔ opened = .ok (read.map .ok) := by
  constructor
  · intro answered
    rcases opened.cases_reading with ⟨failure, rfl⟩ | ⟨others, rfl⟩ | ⟨before, failure, after, rfl⟩
    · cases answered
    · rw [worksheets_of_read] at answered
      rw [Except.ok.inj answered]
    · rw [worksheets_of_reading] at answered
      cases answered
  · rintro rfl
    exact worksheets_of_read read

/-- Bytes are read or reported unless opening or reading fails in a way that nobody foresaw. -/
theorem isReported_iff : opened.IsReported ↔ ∀ failure, ¬ opened.Fails failure := by
  constructor
  · rintro (⟨sheets, read⟩ | ⟨message, reported⟩) failure fails
    · exact nomatch read.symm.trans fails.sheets_eq
    · exact nomatch reported.symm.trans fails.sheets_eq
  · intro sound
    rcases opened.cases_reading with ⟨failure, rfl⟩ | ⟨read, rfl⟩ | ⟨before, failure, after, rfl⟩
    · rcases failure.cases_foreseen with ⟨reason, foreseen⟩ | ⟨cause, rfl⟩
      · exact .inr ⟨_, sheets_of_isForeseen foreseen⟩
      · exact absurd (.opening cause) (sound cause)
    · exact .inl (Outcome.map_answers_iff.mpr ⟨read, worksheets_of_read read⟩)
    · exact absurd (.reading before failure after) (sound failure)

end Opened

end SheetIntake.Workbook
