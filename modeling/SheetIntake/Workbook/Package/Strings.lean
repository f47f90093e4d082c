import SheetIntake.Workbook.Package.Manifest

/-!
# Table of strings

Cells refer to texts of a common table by their place. The mark `x005F_` is no part of a text.
-/

namespace SheetIntake.Workbook

open Markup

/-- The texts to which cells refer. -/
abbrev Strings := List String

namespace Strings

/-- The mark that is left out of texts. -/
def mark : String := "x005F_"

/-- The texts of a document. The first item that makes no sense ends the reading, and a defect of
the document does so once all items before it are read. -/
def read (content : String) : Except OpeningFailure Strings := do
  let document := scan content
  let items := document.ended.filter fun element => element.name = sheetName "si"
  let texts ← (items.mapM readItem).mapError .other
  if document.wellFormed then return texts.map fun text => text.replace mark ""
  else .error (.other .malformedMarkup)

/-- The table of a package; without one it is empty. -/
def ofPackage (package : Package) (manifest : Manifest) : Except OpeningFailure Strings :=
  match manifest.partOfType? Manifest.stringsType with
  | some name => do read (← package.require name)
  | none => .ok []

/-- The text at a place. Places below zero count from the end. -/
def at? (strings : Strings) (place : Int) : Option String :=
  if 0 ≤ place then strings[place.toNat]?
  else if place.natAbs ≤ strings.length then strings[strings.length - place.natAbs]?
  else none

end Strings

end SheetIntake.Workbook
