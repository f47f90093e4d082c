/-!
# Digits

Each script writes its ten decimal digits at ten consecutive code points, zero first. This module
lists the zeros and reads the value of a digit from its distance to its zero. ASCII digits and
hexadecimal digits are classes of their own.
-/

namespace SheetIntake.Text

/-- The code points of the digit zero, one for each run of ten decimal digits. -/
def digitZeros : List Nat := [
  0x30, 0x660, 0x6f0, 0x7c0, 0x966, 0x9e6, 0xa66, 0xae6, 0xb66, 0xbe6, 0xc66, 0xce6, 0xd66,
  0xde6, 0xe50, 0xed0, 0xf20, 0x1040, 0x1090, 0x17e0, 0x1810, 0x1946, 0x19d0, 0x1a80, 0x1a90,
  0x1b50, 0x1bb0, 0x1c40, 0x1c50, 0xa620, 0xa8d0, 0xa900, 0xa9d0, 0xa9f0, 0xaa50, 0xabf0, 0xff10,
  0x104a0, 0x10d30, 0x11066, 0x110f0, 0x11136, 0x111d0, 0x112f0, 0x11450, 0x114d0, 0x11650,
  0x116c0, 0x11730, 0x118e0, 0x11950, 0x11c50, 0x11d50, 0x11da0, 0x16a60, 0x16ac0, 0x16b50,
  0x1d7ce, 0x1d7d8, 0x1d7e2, 0x1d7ec, 0x1d7f6, 0x1e140, 0x1e2f0, 0x1e950, 0x1fbf0]

/-- The value of a decimal digit of any script; no other character has one. -/
def digitValue? (character : Char) : Option Nat :=
  (digitZeros.find? fun start => start ≤ character.toNat && character.toNat < start + 10).map
    fun start => character.toNat - start

/-- The value of one of the ten ASCII digits. -/
def asciiDigitValue? (character : Char) : Option Nat :=
  if '0' ≤ character ∧ character ≤ '9' then some (character.toNat - '0'.toNat) else none

/-- The value of a hexadecimal digit. -/
def hexDigit? (character : Char) : Option Nat :=
  if 'a' ≤ character ∧ character ≤ 'f' then some (character.toNat - 'a'.toNat + 10)
  else if 'A' ≤ character ∧ character ≤ 'F' then some (character.toNat - 'A'.toNat + 10)
  else asciiDigitValue? character

/-- An ASCII digit's value is below ten. -/
theorem asciiDigitValue?_lt_ten {character : Char} {value : Nat}
    (reads : asciiDigitValue? character = some value) : value < 10 := by
  unfold asciiDigitValue? at reads
  split at reads
  · next inRun =>
    have upper : character.toNat ≤ '9'.toNat := inRun.2
    cases reads
    change character.toNat - 48 < 10
    change character.toNat ≤ 57 at upper
    omega
  · cases reads

end SheetIntake.Text
