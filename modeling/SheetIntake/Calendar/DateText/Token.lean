import SheetIntake.Text.Blank
import SheetIntake.Text.Digit

/-!
# Tokens of date phrases

A date phrase is split into numbers, words, single blanks and single other characters. Points, and
commas after two digits, belong to a number; a token with several points, with letters and points,
or with a point at its end is split at its points and commas.
-/

namespace SheetIntake.Calendar.DateText

open SheetIntake.Text

/-- A piece of a date phrase. -/
abbrev Token := List Char

/-- What a token under construction holds so far. -/
inductive TokenKind where
  | word
  | number
  | dottedWord
  | dottedNumber
  deriving DecidableEq, Repr

/-- Whether a character is a digit of any script. -/
def isDigitCharacter (character : Char) : Bool :=
  (digitValue? character).isSome

/-- Whether a character is an ASCII letter. Months, weekdays and zones are named with these alone,
so any other letter makes a phrase no date, whether it stands in a word or alone. -/
def isLetter (character : Char) : Bool :=
  character.isAlpha

/-- How a token goes on with a character, or nothing if it ends before it. `taken` holds the
characters of the token so far, the last one first. -/
def TokenKind.next? (kind : TokenKind) (taken : List Char) (character : Char) :
    Option TokenKind :=
  match kind with
  | .word =>
    if isLetter character then some .word
    else if character = '.' then some .dottedWord
    else none
  | .number =>
    if isDigitCharacter character then some .number
    else if character = '.' ∨ (character = ',' ∧ 2 ≤ taken.length) then some .dottedNumber
    else none
  | .dottedWord =>
    if character = '.' ∨ isLetter character then some .dottedWord
    else if isDigitCharacter character ∧ taken.head? = some '.' then some .dottedNumber
    else none
  | .dottedNumber =>
    if character = '.' ∨ isDigitCharacter character then some .dottedNumber
    else if isLetter character ∧ taken.head? = some '.' then some .dottedWord
    else none

/-- Splits a token before and after each point or comma. -/
def splitMarks : List Char → List Char → List Token
  | current, [] => [current.reverse]
  | current, character :: rest =>
    if character = '.' ∨ character = ',' then
      current.reverse :: [character] :: splitMarks [] rest
    else splitMarks (character :: current) rest

/-- The tokens that the characters of one run give; `letters` says whether there are any letters
among them. -/
def finishToken (kind : TokenKind) (letters : Bool) (taken : List Char) : List Token :=
  let characters := taken.reverse
  let dotted := kind = .dottedWord ∨ kind = .dottedNumber
  let ends := taken.head? = some '.' ∨ taken.head? = some ','
  if dotted ∧ (letters ∨ 1 < characters.count '.' ∨ ends) then
    (splitMarks [] characters).filter fun token => !token.isEmpty
  else if kind = .dottedNumber ∧ characters.count '.' = 0 then
    [characters.map fun character => if character = ',' then '.' else character]
  else [characters]

/-- The run that a character begins; blanks and other characters begin none. -/
def TokenKind.start? (character : Char) : Option TokenKind :=
  if isLetter character then some .word
  else if isDigitCharacter character then some .number
  else none

/-- The token of a character that begins no run. Every blank counts as a space. -/
def loneToken (character : Char) : Token :=
  [if isBlank character then ' ' else character]

/-- Splits the characters after a run, or at the start when there is none. A run is given by its
kind, whether it holds letters, and its characters, the last one first. -/
def splitTokens : Option (TokenKind × Bool × List Char) → List Char → List Token
  | none, [] => []
  | some (kind, letters, taken), [] => finishToken kind letters taken
  | none, character :: rest =>
    match TokenKind.start? character with
    | some kind => splitTokens (some (kind, false, [character])) rest
    | none => loneToken character :: splitTokens none rest
  | some (kind, letters, taken), character :: rest =>
    let seen := letters || kind = .word || kind = .dottedWord
    match kind.next? taken character with
    | some next => splitTokens (some (next, seen, character :: taken)) rest
    | none =>
      finishToken kind seen taken ++
        match TokenKind.start? character with
        | some next => splitTokens (some (next, false, [character])) rest
        | none => loneToken character :: splitTokens none rest

/-- The tokens of a phrase. NUL characters are passed over. -/
def tokens (characters : List Char) : List Token :=
  splitTokens none (characters.filter fun character => character.toNat ≠ 0)

end SheetIntake.Calendar.DateText
