import SheetIntake.Proofs.Sheet.RepeatedName
import SheetIntake.Proofs.Workbook.Opened
import SheetIntake.Service.Upload

/-!
# Uploads that fail

The client is told about bytes that are no readable workbook, but not all bytes that cannot be read
are found to be none. `upload_reports_iff` says which are, whatever comes of opening them: bytes are
read or reported unless opening or reading them fails in a way that nobody foresaw, and then the
upload fails as if the service were at fault.
-/

namespace SheetIntake

open Calendar

/-- A package whose manifest is not well formed is not opened, whatever its other parts are. -/
theorem Workbook.Package.opened_of_malformed_manifest {package : Package} {content : String}
    (present : package.part? Manifest.partName = some content)
    (malformed : Markup.root? content = none) :
    package.opened = .error (.other .malformedMarkup) := by
  rw [opened, requireRoot, require, present]
  dsimp only [bind, Except.bind, root]
  rw [malformed]

namespace Service

open Workbook

section

variable {site : Site} {size : Nat} {opened : Opened} {registry : Registry} {limit : Int}
  {now : DateTime}

/-- An upload of bytes that cannot be read is refused for the failure of reading them. -/
theorem uploadOpened_of_unread {failure : ReadFailure} (small : (size : Int) ≤ limit)
    (failed : opened.sheets = .error failure) :
    uploadOpened site size opened registry limit now = .error (refusalOfUpload failure) := by
  rw [uploadOpened, if_neg (Int.not_lt.mpr small), reviewOpened, failed]
  rfl

/-- Whatever comes of opening bytes, they are read or reported as no readable workbook exactly when
neither opening nor reading fails in a way that nobody foresaw. What is foreseen is refused as a bad
request that gives the reason; what nobody foresaw is passed on by the reader, and the upload is
refused as a fault of the service. -/
theorem upload_reports_iff (small : (size : Int) ≤ limit) :
    (opened.IsReported ↔ ∀ failure, ¬ opened.Fails failure) ∧
      (∀ failure reason, opened = .error failure → failure.IsForeseen reason →
        opened.sheets = .error (.unreadable ("Failed to read Excel file: " ++ reason)) ∧
        uploadOpened site size opened registry limit now =
          .error (.badRequest ("Failed to read Excel file: " ++ reason))) ∧
      ∀ failure, opened.Fails failure →
        opened.sheets = .error (.unforeseen failure) ∧
        uploadOpened site size opened registry limit now =
          .error (.serverError "Error processing file.") := by
  refine ⟨Opened.isReported_iff, ?_, ?_⟩
  · rintro failure reason rfl foreseen
    have reported := Opened.sheets_of_isForeseen foreseen
    exact ⟨reported, uploadOpened_of_unread small reported⟩
  · intro failure fails
    exact ⟨fails.sheets_eq, uploadOpened_of_unread small fails.sheets_eq⟩

end

/-- An archive whose manifest is empty. -/
def fileWithEmptyManifest : File := .ofParts [(Manifest.partName, "")]

/-- A workbook that is opened, and in whose only worksheet a number makes no sense. -/
def openedWithBadNumber : Opened := .ok [.error .badValue]

theorem upload_fails_for_empty_manifest :
    (fileWithEmptyManifest.size : Int) ≤ 100000 ∧
      fileWithEmptyManifest.opened.Fails .malformedMarkup ∧
      ¬ fileWithEmptyManifest.opened.IsReported ∧
      upload WorkbookReview.siteOfAnn (some fileWithEmptyManifest) .builtin 100000
          WorkbookReview.dayOfAnn =
        .error (.serverError "Error processing file.") ∧
      uploadOpened WorkbookReview.siteOfAnn 100 openedWithBadNumber .builtin 100000
          WorkbookReview.dayOfAnn =
        .error (.serverError "Error processing file.") := by
  have small : (fileWithEmptyManifest.size : Int) ≤ 100000 := by decide
  have unopened : fileWithEmptyManifest.opened = .error (.other .malformedMarkup) :=
    Package.opened_of_malformed_manifest (rfl : _ = some "") rfl
  have fails : fileWithEmptyManifest.opened.Fails .malformedMarkup := by
    rw [unopened]
    exact .opening _
  have unread : openedWithBadNumber.Fails .badValue := .reading [] .badValue []
  obtain ⟨reported, _, refused⟩ := upload_reports_iff small
  obtain ⟨_, _, refusedUnread⟩ := upload_reports_iff (by decide : ((100 : Nat) : Int) ≤ 100000)
  exact ⟨small, fails, fun isReported => reported.mp isReported _ fails, (refused _ fails).2,
    (refusedUnread _ unread).2⟩

end Service

end SheetIntake
