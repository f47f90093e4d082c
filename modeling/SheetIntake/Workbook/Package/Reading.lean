import SheetIntake.Workbook.Package.Contents
import SheetIntake.Workbook.Package.Rows

/-!
# Reading packages

A package is opened as a whole: manifest, strings, contents, styles and the bounds of each sheet,
in this order. Then the rows of the sheets are read, one sheet after the other. A sheet whose part
is not in the package, or that holds a chart, is left out.

Parts, elements and attributes on which no cell depends, such as margins, fonts and names of styles,
are passed over: what is wrong with them is not found here. What holds of every way in which opening
and reading may end is said of `Opened`.
-/

namespace SheetIntake.Workbook

open Markup

/-- A sheet whose rows are still to be read. -/
structure OpenSheet where
  title : String
  bounds : Bounds
  document : Scan

namespace Package

/-- The parts about the workbook as a whole that only have to be well formed. -/
def propertyParts : List String := ["docProps/core.xml", "docProps/custom.xml"]

/-- The word that marks references to charts. -/
def chartWord : String := "chartsheet"

/-- Whether a text holds a word. -/
def holds (word : List Char) : List Char → Bool
  | [] => word.isEmpty
  | character :: rest => word.isPrefixOf (character :: rest) || holds word rest

/-- Opens the sheet to which a reference leads, if there is one. -/
def openSheet (package : Package) (title : String) (relation : Relation) :
    Except OpeningFailure (Option OpenSheet) :=
  match package.part? relation.target with
  | none => .ok none
  | some content => do
    let _ ← package.optionalRoot (Relations.partName relation.target)
    if holds chartWord.toList relation.kind.toList then
      let _ ← root content
      return none
    else
      let document := scan content
      return some ⟨title, ← Rows.readBounds document, document⟩

/-- Opens the listed sheets of a workbook part. The references are looked up only when a sheet has
an identifier. -/
def openSheets (package : Package) (name : String) (sheets : List ListedSheet) :
    Except OpeningFailure (List OpenSheet) := do
  let named := sheets.filterMap fun sheet => sheet.identifier.map fun key => (sheet.title, key)
  if named.isEmpty then return []
  else
    let relations ← Relations.ofPackage package name
    let opened ← named.mapM fun (title, identifier) => do
      package.openSheet title (← relations.find identifier)
    return opened.filterMap id

/-- A package as an opened workbook, with the worksheets in the order in which they are listed. -/
def opened (package : Package) : Opened := do
  let manifest ← Manifest.read (← package.requireRoot Manifest.partName)
  let strings ← Strings.ofPackage package manifest
  let name ← manifest.workbookPart
  let contents ← Contents.read (← package.requireRoot name)
  let _ ← propertyParts.mapM package.optionalRoot
  let styles ← Styles.ofPackage package
  let sheets ← package.openSheets name contents.sheets
  let context : CellContext := ⟨strings, styles, contents.epoch⟩
  return sheets.map fun sheet =>
    (Rows.read context sheet.bounds sheet.document).map (Worksheet.ofRows sheet.title)

end Package

end SheetIntake.Workbook
