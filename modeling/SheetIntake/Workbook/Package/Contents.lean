import SheetIntake.Workbook.Package.Manifest
import SheetIntake.Workbook.Package.Relations
import SheetIntake.Workbook.Serial

/-!
# Contents of a workbook

The workbook part lists the sheets by title, each with an identifier that leads to its part, and
says from which day dates are counted.
-/

namespace SheetIntake.Workbook

open Decimal Markup

/-- A sheet as it is listed: its title, and its identifier if it has one. -/
structure ListedSheet where
  title : String
  identifier : Option String
  deriving DecidableEq, Repr

/-- The epoch and the listed sheets of a workbook. -/
structure Contents where
  epoch : Epoch
  sheets : List ListedSheet
  deriving DecidableEq, Repr

namespace Contents

/-- The words for how a sheet is shown. -/
def visibilities : List String := ["visible", "hidden", "veryHidden", "none"]

/-- A listed sheet. It needs a title and a whole number. -/
def readSheet (element : Element) : Except OpeningFailure ListedSheet :=
  match element.attribute? "name", (element.attribute? "sheetId").bind readInteger? with
  | some title, some _ =>
    if !hasShape element ["name", "sheetId"] ["state", "id"] then .error (.other .badType)
    else if ((element.attribute? "state").all visibilities.contains) then
      let identifier :=
        (element.attributeIn? referenceSpace "id").or (element.attribute? "id")
      .ok ⟨title, identifier.filter (· ≠ "")⟩
    else .error Stage.workbook.failure
  | _, _ => .error (.other .badType)

/-- The marks that stand for falsehood. -/
def falseMarks : List String := ["", "0", "f", "false"]

/-- Whether a mark stands for truth. -/
def isMarked (mark : String) : Bool := !falseMarks.contains mark

/-- The epoch that the last properties element sets. -/
def readEpoch (root : Element) : Epoch :=
  match (root.labelled "workbookPr").getLast?.bind (·.attribute? "date1904") with
  | some mark => if isMarked mark then .year1904 else .year1900
  | none => .year1900

/-- What a workbook part may say about itself in attributes of its root element. -/
def rootLabels : List String :=
  ["conformance", "fileVersion", "fileSharing", "workbookPr", "workbookProtection", "bookViews",
    "sheets", "functionGroups", "externalReferences", "definedNames", "calcPr", "oleSize",
    "customWorkbookViews", "pivotCaches", "smartTagPr", "smartTagTypes", "webPublishing",
    "fileRecoveryPr", "webPublishObjects", "extLst", "Ignorable"]

/-- The contents of the root element of a workbook part. Of several lists of sheets the last
counts, but all have to be well made. -/
def read (root : Element) : Except OpeningFailure Contents := do
  let lists ← (root.labelled "sheets").mapM fun list => list.children.mapM readSheet
  if hasShape root [] rootLabels then return ⟨readEpoch root, lists.getLast?.getD []⟩
  else .error (.other .badType)

end Contents

end SheetIntake.Workbook
