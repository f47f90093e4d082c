import SheetIntake.Text.Quoted

/-!
# Number formats

How a worksheet shows a number decides what the number means: a number under a date format is a
date or a time, one under an elapsed-time format a duration. Formats are given by a number; some
numbers have a fixed meaning, others stand for a format text of the workbook. Only the first section
of a format text counts, and quoted texts and bracketed remarks in it do not.
-/

namespace SheetIntake.Workbook

open Text

/-- What a number under a format stands for. -/
inductive NumberMeaning where
  | number
  | date
  | duration
  deriving DecidableEq, Repr

namespace NumberFormat

/-- The bracketed words that count elapsed hours, minutes or seconds. -/
def elapsedWords : List String := ["h", "hh", "m", "mm", "s", "ss"]

/-- The text of a format up to its first semicolon. -/
def firstSection (format : List Char) : List Char :=
  format.takeWhile (· ≠ ';')

/-- What follows a quoted text or a bracketed remark that opens with the given character. A quoted
text stays on one line. -/
def afterRemark? (opening : Char) (rest : List Char) : Option (List Char) :=
  if opening = quotationMark then
    let after := rest.dropWhile fun character => character ≠ quotationMark && character ≠ '\n'
    if after.head? = some quotationMark then some (after.drop 1) else none
  else if opening = '[' then
    let word := rest.takeWhile (· ≠ ']')
    let after := rest.dropWhile (· ≠ ']')
    if after.isEmpty || elapsedWords.contains (String.ofList word) then none
    else some (after.drop 1)
  else none

/-- A remark ends after it began. -/
theorem length_afterRemark?_le {opening : Char} {rest after : List Char}
    (ends : afterRemark? opening rest = some after) : after.length ≤ rest.length := by
  have shorter (keep : Char → Bool) : ((rest.dropWhile keep).drop 1).length ≤ rest.length := by
    rw [List.length_drop]
    exact Nat.le_trans (Nat.sub_le _ _) (List.dropWhile_suffix keep).length_le
  unfold afterRemark? at ends
  split at ends
  · simp only at ends
    split at ends
    · cases ends; exact shorter _
    · cases ends
  · split at ends
    · simp only at ends
      split at ends
      · cases ends
      · cases ends; exact shorter _
    · cases ends

/-- A format without its quoted texts and bracketed remarks. -/
def withoutRemarks : List Char → List Char
  | [] => []
  | character :: rest =>
    match _ends : afterRemark? character rest with
    | some after => withoutRemarks after
    | none => character :: withoutRemarks rest
termination_by characters => characters.length
decreasing_by
  · have := length_afterRemark?_le _ends
    simp only [List.length_cons]
    omega
  · simp

/-- The letters that stand for parts of a date or a time. -/
def isDateLetter (character : Char) : Bool :=
  "dmhysDMHYS".toList.contains character

/-- Whether a date letter stands in a text without an underscore or a backslash before it. -/
def hasDateLetter : Option Char → List Char → Bool
  | _, [] => false
  | before, character :: rest =>
    (isDateLetter character && before ≠ some '_' && before ≠ some backslash) ||
      hasDateLetter (some character) rest

/-- Whether a text holds a bracketed word for elapsed time, in either case. -/
def hasElapsedWord : List Char → Bool
  | [] => false
  | character :: rest =>
    (character = '[' && elapsedWords.any fun word =>
      (rest.take (word.length + 1)).map Char.toLower == word.toList ++ [']']) ||
      hasElapsedWord rest

/-- What a number under a format text stands for. Elapsed time counts only under a date format. -/
def meaning (format : String) : NumberMeaning :=
  let shown := firstSection format.toList
  if hasDateLetter none (withoutRemarks shown) then
    if hasElapsedWord shown then .duration else .date
  else .number

/-- What the formats with a fixed meaning stand for, by their number. -/
def fixedMeaning (number : Int) : NumberMeaning :=
  if number = 46 then .duration
  else if (14 ≤ number ∧ number ≤ 22) ∨ number = 45 ∨ number = 47 then .date
  else .number

end NumberFormat

end SheetIntake.Workbook
