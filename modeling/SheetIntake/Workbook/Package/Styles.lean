import SheetIntake.Workbook.NumberFormat
import SheetIntake.Workbook.Package.Basic

/-!
# Styles

A cell refers to a style by its place in a list. Of a style only the number format counts, which
is one of the fixed formats unless the workbook defines a format text under its number.
-/

namespace SheetIntake.Workbook

open Decimal Markup

/-- What numbers stand for, by the place of their style. -/
abbrev Styles := List NumberMeaning

namespace Styles

/-- The part that holds the styles. -/
def partName : String := "xl/styles.xml"

/-- The integer of an attribute. -/
def readNumber (element : Element) (label : String) : Except OpeningFailure Int :=
  match (element.attribute? label).bind readInteger? with
  | some number => .ok number
  | none => .error (.other .badType)

/-- The children of the last child with a label. -/
def itemsOf (root : Element) (label : String) : List Element :=
  ((root.labelled label).getLast?.map Element.children).getD []

/-- The format texts of a workbook, by their number. -/
def readFormats (root : Element) : Except OpeningFailure (List (Int × String)) :=
  ((itemsOf root "numFmts").filter fun item => item.name.label = "numFmt").mapM fun item =>
    match item.attribute? "formatCode" with
    | some format => do return (← readNumber item "numFmtId", format)
    | none => .error (.other .badType)

/-- The parts of a style that are named by their numbers. -/
def partLabels : List String := ["numFmtId", "fontId", "fillId", "borderId", "xfId"]

/-- What numbers under a style stand for. The other parts of a style only have to be named by
numbers. -/
def readMeaning (formats : List (Int × String)) (item : Element) :
    Except OpeningFailure NumberMeaning := do
  let _ ← (partLabels.filter fun label => (item.attribute? label).isSome).mapM (readNumber item)
  let number ← if (item.attribute? "numFmtId").isSome then readNumber item "numFmtId" else .ok 0
  match Assoc.get? formats.reverse number with
  | some format => return NumberFormat.meaning format
  | none => return NumberFormat.fixedMeaning number

/-- The styles of the root element of a document. -/
def read (root : Element) : Except OpeningFailure Styles := do
  let formats ← readFormats root
  ((itemsOf root "cellXfs").filter fun item => item.name.label = "xf").mapM (readMeaning formats)

/-- The styles of a package; without a part for them there are none. -/
def ofPackage (package : Package) : Except OpeningFailure Styles := do
  match ← package.optionalRoot partName with
  | some root => read root
  | none => return []

/-- What a number stands for under the style at a place. -/
def meaningAt (styles : Styles) (place : Int) : NumberMeaning :=
  if 0 ≤ place then styles[place.toNat]?.getD .number else .number

end Styles

end SheetIntake.Workbook
