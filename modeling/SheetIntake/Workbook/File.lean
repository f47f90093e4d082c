import SheetIntake.Workbook.Grid
import SheetIntake.Workbook.Package.Reading
import SheetIntake.Workbook.Title

/-!
# Workbook files

An uploaded file is a package of parts, a workbook that was written from grids, or anything else,
which is no workbook. A file has a size in bytes. Reading a file no further than a limit gives the
whole file if it is not longer, and otherwise a fragment, which is no workbook.
-/

namespace SheetIntake.Workbook

/-- What a file holds. -/
inductive FileBody where
  /-- Bytes that are no archive. -/
  | other
  /-- An archive of parts. -/
  | package (package : Package)
  /-- A workbook written from grids. -/
  | grids (grids : List Grid)

/-- An uploaded file with its size in bytes. -/
structure File where
  size : Nat
  body : FileBody

namespace File

/-- The file that holds a text. -/
def ofText (text : String) : File := ⟨text.utf8ByteSize, .other⟩

/-- The bytes that an archive takes for a part apart from its name and content. -/
def partOverhead : Nat := 76

/-- The bytes at the end of an archive. -/
def archiveEnd : Nat := 22

/-- The file that holds parts as they are. -/
def ofParts (parts : List (String × String)) : File where
  size := parts.foldl
    (fun size part => size + partOverhead + 2 * part.1.utf8ByteSize + part.2.utf8ByteSize)
    archiveEnd
  body := .package ⟨parts⟩

/-- The bytes of a written workbook without any cells. -/
def emptyWorkbookSize : Nat := 4800

/-- The bytes that each cell adds to a written workbook, at least. -/
def cellSize : Nat := 8

/-- The file that is written from grids. Its size is an estimate from below. -/
def ofGrids (grids : List Grid) : File where
  size := emptyWorkbookSize + cellSize * (grids.flatMap fun grid => grid.rows.flatten).length
  body := .grids grids

/-- The first bytes of a file: at most as many as asked for, and all for a negative number. -/
def readAtMost (count : Int) (file : File) : File :=
  if count < 0 ∨ (file.size : Int) ≤ count then file else ⟨count.toNat, .other⟩

/-- The worksheets that grids are read back as. Each title is made different from those before. -/
def worksheetsOfGrids (grids : List Grid) : Except Failure (List Worksheet) := do
  let stored ← grids.mapM Grid.stored
  let titles := Title.unusedAll (grids.map Grid.title)
  return (titles.zip stored).map fun (title, grid) => { grid with title }.toWorksheet

/-- A file as an opened workbook. -/
def opened (file : File) : Opened :=
  match file.body with
  | .other => .error (.badArchive "File is not a zip file")
  | .package package => package.opened
  | .grids grids =>
    ((worksheetsOfGrids grids).map fun worksheets => worksheets.map .ok).mapError .other

/-- The worksheets of a file. -/
def worksheets (file : File) : Except ReadFailure (List Worksheet) := file.opened.worksheets

/-- The sheets of a file. -/
def sheets (file : File) : Except ReadFailure (List Sheet) :=
  file.worksheets.map fun worksheets => worksheets.map Worksheet.toSheet

end File

end SheetIntake.Workbook
