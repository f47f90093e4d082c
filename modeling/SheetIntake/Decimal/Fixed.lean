import SheetIntake.Text.Digit

/-!
# Numbers of a fixed width

Clock and calendar fields are written with a fixed number of decimal digits. Reading such a field
gives back the number that was written, and leaves what follows.
-/

namespace SheetIntake.Decimal

open SheetIntake.Text

/-- The character of a decimal digit. -/
def digitCharacter (digit : Nat) : Char :=
  Char.ofNat (0x30 + digit)

/-- The last `width` decimal digits of a number, with zeros in front where it is shorter. -/
def fixedDigits : Nat → Nat → List Char
  | 0, _ => []
  | width + 1, value => fixedDigits width (value / 10) ++ [digitCharacter (value % 10)]

/-- Reads ASCII digits, a given number of them, after a number that was read before them. -/
def readDigitsAfter? : Nat → Nat → List Char → Option (Nat × List Char)
  | _, 0, characters => some (0, characters)
  | _, _ + 1, [] => none
  | total, 1, character :: rest =>
    (asciiDigitValue? character).map fun value => (10 * total + value, rest)
  | total, width + 1, character :: rest =>
    (asciiDigitValue? character).bind fun value =>
      readDigitsAfter? (10 * total + value) width rest

/-- Reads exactly `width` ASCII digits. -/
def readDigits? (width : Nat) (characters : List Char) : Option (Nat × List Char) :=
  readDigitsAfter? 0 width characters

/-- Reads one ASCII digit, or two when a second one follows. -/
def readOneOrTwo? (characters : List Char) : Option (Nat × List Char) :=
  match readDigits? 2 characters with
  | some result => some result
  | none => readDigits? 1 characters

/-- A digit character reads as its digit. -/
theorem asciiDigitValue?_digitCharacter {digit : Nat} (small : digit < 10) :
    asciiDigitValue? (digitCharacter digit) = some digit := by
  match digit, small with
  | 0, _ | 1, _ | 2, _ | 3, _ | 4, _ | 5, _ | 6, _ | 7, _ | 8, _ | 9, _ => decide

/-- A field has its width. -/
@[simp] theorem length_fixedDigits (width value : Nat) :
    (fixedDigits width value).length = width := by
  induction width generalizing value with
  | zero => rfl
  | succ width inductionHypothesis => simp [fixedDigits, inductionHypothesis]

end SheetIntake.Decimal
