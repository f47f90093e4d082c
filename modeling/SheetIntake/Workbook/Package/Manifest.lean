import SheetIntake.Workbook.Package.Basic

/-!
# Manifest

The manifest of a package says of what type its parts are. It leads to the table of strings, which
may be missing, and to the workbook part.
-/

namespace SheetIntake.Workbook

open Markup

/-- The types of parts, and the types that are given to parts by default. -/
structure Manifest where
  parts : List (String × String)
  defaults : List String

namespace Manifest

/-- The name of the manifest part. -/
def partName : String := "[Content_Types].xml"

/-- The type of a table of strings. -/
def stringsType : String :=
  "application/vnd.openxmlformats-officedocument.spreadsheetml.sharedStrings+xml"

/-- The types of a workbook part, in the order of preference. -/
def workbookTypes : List String :=
  ["application/vnd.ms-excel.template.macroEnabled.main+xml",
    "application/vnd.openxmlformats-officedocument.spreadsheetml.template.main+xml",
    "application/vnd.ms-excel.sheet.macroEnabled.main+xml",
    "application/vnd.openxmlformats-officedocument.spreadsheetml.sheet.main+xml"]

/-- The workbook part of a package whose manifest names only default types. -/
def defaultWorkbook : String := "xl/workbook.xml"

/-- The named attributes of an element that has exactly these. -/
def readPair (element : Element) (first second : String) :
    Except OpeningFailure (String × String) :=
  match element.attribute? first, element.attribute? second with
  | some left, some right =>
    if hasShape element [first, second] [] then .ok (left, right) else .error (.other .badType)
  | _, _ => .error (.other .badType)

/-- The manifest of its root element. -/
def read (root : Element) : Except OpeningFailure Manifest := do
  let defaults ← (root.labelled "Default").mapM (readPair · "Extension" "ContentType")
  let parts ← (root.labelled "Override").mapM (readPair · "PartName" "ContentType")
  return ⟨parts, defaults.map Prod.snd⟩

/-- The first part of a type, without the stroke in front of its name. -/
def partOfType? (manifest : Manifest) (type : String) : Option String :=
  (manifest.parts.find? fun entry => entry.2 = type).map fun entry =>
    String.ofList (entry.1.toList.drop 1)

/-- The workbook part. -/
def workbookPart? (manifest : Manifest) : Option String :=
  match workbookTypes.findSome? manifest.partOfType? with
  | some name => some name
  | none => if workbookTypes.any manifest.defaults.contains then some defaultWorkbook else none

/-- The workbook part, which has to be named. -/
def workbookPart (manifest : Manifest) : Except OpeningFailure String :=
  match manifest.workbookPart? with
  | some name => .ok name
  | none => .error (.system "File contains no valid workbook part")

end Manifest

end SheetIntake.Workbook
