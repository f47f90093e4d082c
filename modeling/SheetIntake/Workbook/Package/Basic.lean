import SheetIntake.Decimal.Numeral
import SheetIntake.Markup.Tree
import SheetIntake.Text.Quoted
import SheetIntake.Workbook.Opened

/-!
# Packages

A workbook file is an archive of named parts, each a markup document. This module finds parts, reads
them as documents, and says how a workbook that cannot be read is reported: by the part that is
missing, or by the stage at which a part made no sense.
-/

namespace SheetIntake.Workbook

open Markup

/-- The stages of reading a package. -/
inductive Stage where
  | manifest
  | strings
  | workbook
  | styles
  | worksheets
  deriving DecidableEq, Repr

/-- What is done at a stage. -/
def Stage.action : Stage → String
  | manifest => "read manifest"
  | strings => "read strings"
  | workbook => "read workbook"
  | styles => "read stylesheet"
  | worksheets => "read worksheets"

/-- The failure of a stage at which a part makes no sense. -/
def Stage.failure (stage : Stage) : OpeningFailure :=
  .badValue ("Unable to read workbook: could not " ++ stage.action ++ " from None.\n" ++
    "This is most probably because the workbook source files contain some invalid XML.\n" ++
    "Please see the exception for more details.")

/-- The namespace of the elements of a worksheet. -/
def sheetSpace : String := "http://schemas.openxmlformats.org/spreadsheetml/2006/main"

/-- The namespace of references from one part to another. -/
def referenceSpace : String :=
  "http://schemas.openxmlformats.org/officeDocument/2006/relationships"

/-- A name in the namespace of worksheets. -/
def sheetName (label : String) : Name := ⟨sheetSpace, label⟩

/-- The named parts of a workbook file, in the order in which they are stored. -/
structure Package where
  parts : List (String × String)

namespace Package

/-- The content of a part. Of several parts with one name the last counts. -/
def part? (package : Package) (name : String) : Option String :=
  Assoc.get? package.parts.reverse name

/-- The content of a part that has to be there. -/
def require (package : Package) (name : String) : Except OpeningFailure String :=
  match package.part? name with
  | some content => .ok content
  | none =>
    let reason := "There is no item named " ++ Text.quoted name ++ " in the archive"
    .error (.missingKey (Text.quoted reason))

/-- The root element of a document that has to be well formed. -/
def root (content : String) : Except OpeningFailure Element :=
  match root? content with
  | some element => .ok element
  | none => .error (.other .malformedMarkup)

/-- The root element of a part that has to be there. -/
def requireRoot (package : Package) (name : String) : Except OpeningFailure Element := do
  root (← package.require name)

/-- The root element of a part, or nothing if the part is not there. -/
def optionalRoot (package : Package) (name : String) :
    Except OpeningFailure (Option Element) :=
  match package.part? name with
  | some content => (root content).map some
  | none => .ok none

end Package

/-- Whether an element has all required attributes, and no others without a namespace than the
required and the allowed ones. -/
def hasShape (element : Element) (required allowed : List String) : Bool :=
  required.all (fun label => (element.attribute? label).isSome) &&
    element.attributes.all fun entry =>
      entry.1.space ≠ "" || (required ++ allowed).contains entry.1.label

/-- The text of the last own text of an element. -/
def ownText (element : Element) : String :=
  ((element.labelled "t").getLast?.map Element.text).getD ""

/-- The text of a run of a string item. -/
def readRun (run : Element) : Except Failure String :=
  if hasShape run [] ["rPr", "t"] then .ok (ownText run) else .error .badType

/-- The text of a string item: its own text, then the texts of its runs. -/
def readItem (item : Element) : Except Failure String := do
  let runs ← (item.labelled "r").mapM readRun
  if hasShape item [] ["t", "r", "rPh", "phoneticPr"] then
    return ownText item ++ "".intercalate runs
  else .error .badType

end SheetIntake.Workbook
