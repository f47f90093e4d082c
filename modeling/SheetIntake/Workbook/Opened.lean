import SheetIntake.Failure
import SheetIntake.Workbook.Worksheet

/-!
# Opened workbooks

The bytes of a file are opened as a workbook, and then its worksheets are read one after the other.
Either may fail. Opening fails for some kinds of reasons that are foreseen: the file is no readable
workbook then, and is reported as that. Whatever else fails is passed on as it is.

Nothing is said here about which bytes open. That is up to the library that opens them;
`Package.opened` follows it as far as cells depend on the parts of an archive.
-/

namespace SheetIntake.Workbook

/-- Why bytes are not opened as a workbook. All kinds but the last say what is wrong. -/
inductive OpeningFailure where
  /-- The form of the file is not supported. -/
  | unsupported (reason : String)
  /-- The bytes are no archive, or a damaged one. -/
  | badArchive (reason : String)
  /-- A part or a reference is not there. -/
  | missingKey (reason : String)
  /-- A value has the right type but no meaning. -/
  | badValue (reason : String)
  /-- The system does not give what it is asked for. -/
  | system (reason : String)
  | other (failure : Failure)
  deriving DecidableEq, Repr

/-- Why the worksheets of a file are not read. -/
inductive ReadFailure where
  /-- The file is no readable workbook. -/
  | unreadable (message : String)
  /-- Nobody foresaw the failure. -/
  | unforeseen (failure : Failure)
  deriving DecidableEq, Repr

/-- How a failure of opening is passed on. -/
def OpeningFailure.passedOn : OpeningFailure → ReadFailure
  | .unsupported reason | .badArchive reason | .missingKey reason | .badValue reason
  | .system reason => .unreadable ("Failed to read Excel file: " ++ reason)
  | .other failure => .unforeseen failure

/-- What comes of opening bytes: for each worksheet what comes of reading it to its end. -/
abbrev Opened := Except OpeningFailure (List (Except Failure Worksheet))

namespace Opened

/-- The worksheets of an opened workbook. The first that is not read ends the reading. -/
def worksheets (opened : Opened) : Except ReadFailure (List Worksheet) := do
  (← opened.mapError OpeningFailure.passedOn).mapM fun worksheet =>
    worksheet.mapError ReadFailure.unforeseen

/-- The sheets of an opened workbook. -/
def sheets (opened : Opened) : Except ReadFailure (List Sheet) :=
  opened.worksheets.map fun worksheets => worksheets.map Worksheet.toSheet

end Opened

end SheetIntake.Workbook
