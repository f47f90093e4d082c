import SheetIntake.Decimal.Numeral
import SheetIntake.Failure
import SheetIntake.Text.Case
import SheetIntake.Text.Quoted

/-!
# Titles of worksheets

No two worksheets of a workbook have titles that differ in letter case alone. A title that is taken
gets a number at its end: one more than the greatest number that follows the title among the titles
in use. A title may not be empty, nor hold one of seven characters that references use.
-/

namespace SheetIntake.Workbook.Title

open Decimal Text

/-- The characters that no title holds. -/
def reserved : List Char := [backslash, '*', '?', ':', '/', '[', ']']

/-- A title as it was given, if it can be one. -/
def check (title : String) : Except Failure String :=
  if title.isEmpty || title.toList.any reserved.contains then .error .badValue else .ok title

/-- The text after a word at the front, if the word is there in any letter case. -/
def afterWord? : List Char → List Char → Option (List Char)
  | [], characters => some characters
  | _ :: _, [] => none
  | letter :: word, character :: rest =>
    if sameLetter letter character then afterWord? word rest else none

/-- The digits that follow a word at each of its places in a text, from the front. A place inside an
earlier place, its digits and a comma after them does not count. `skip` characters are still part of
such a place. -/
def numbersAfter (word : List Char) : Nat → List Char → List (List Nat)
  | _, [] => []
  | skip + 1, _ :: rest => numbersAfter word skip rest
  | 0, character :: rest =>
    match afterWord? word (character :: rest) with
    | some after =>
      let (digits, final) := takeDigits digitValue? after
      let comma := if final.head? = some ',' then 1 else 0
      digits :: numbersAfter word (word.length + digits.length + comma - 1) rest
    | none => numbersAfter word 0 rest

/-- Whether a title is taken, in any letter case. -/
def isTaken (titles : List String) (title : String) : Bool :=
  (titles.map lower).contains (lower title)

/-- A title that is not taken by one of the titles in use. -/
def unused (titles : List String) (title : String) : String :=
  if isTaken titles title then
    match numbersAfter title.toList 0 (",".intercalate titles).toList with
    | [] => title
    | numbers =>
      let greatest := (numbers.map valueOfDigits).foldl max 0
      title ++ toString (greatest + 1)
  else title

/-- Titles one after the other, each made different from those before it. -/
def unusedAll (titles : List String) : List String :=
  titles.foldl (fun used title => used ++ [unused used title]) []

end SheetIntake.Workbook.Title
