import Mathlib.Algebra.GroupWithZero.Nat
import SheetIntake.Decimal.Fixed

/-!
# Reading what was written with a fixed width

A field of a fixed width is read back as the number that was written, if the number fits. Nothing
else is read: a field that is read as a number was written for it.
-/

namespace SheetIntake.Decimal

open SheetIntake.Text

/-- The characters of digits are digits. -/
theorem isDigit_digitCharacter {digit : Nat} (small : digit < 10) :
    (digitCharacter digit).isDigit = true := by
  match digit, small with
  | 0, _ | 1, _ | 2, _ | 3, _ | 4, _ | 5, _ | 6, _ | 7, _ | 8, _ | 9, _ => decide

theorem toNat_digitCharacter {digit : Nat} (small : digit < 10) :
    (digitCharacter digit).toNat - '0'.toNat = digit := by
  match digit, small with
  | 0, _ | 1, _ | 2, _ | 3, _ | 4, _ | 5, _ | 6, _ | 7, _ | 8, _ | 9, _ => decide

/-- The characters of a field are digits. -/
theorem isDigit_of_mem_fixedDigits {width value : Nat} {character : Char}
    (present : character ∈ fixedDigits width value) : character.isDigit = true := by
  induction width generalizing value with
  | zero => cases present
  | succ width inductionHypothesis =>
    rw [fixedDigits] at present
    rcases List.mem_append.mp present with front | last
    · exact inductionHypothesis front
    · rw [List.mem_singleton.mp last]
      exact isDigit_digitCharacter (Nat.mod_lt _ (by decide))

/-- The value of the digits of a field. -/
theorem foldl_fixedDigits (width value : Nat) :
    (fixedDigits width value).foldl
        (fun total digit => 10 * total + (digit.toNat - '0'.toNat)) 0 = value % 10 ^ width := by
  induction width generalizing value with
  | zero => rw [Nat.pow_zero, Nat.mod_one]; rfl
  | succ width inductionHypothesis =>
    have last : (digitCharacter (value % 10)).toNat - '0'.toNat = value % 10 :=
      toNat_digitCharacter (Nat.mod_lt _ (by decide))
    rw [fixedDigits, List.foldl_append, inductionHypothesis, List.foldl_cons, List.foldl_nil, last,
      Nat.pow_succ', Nat.mod_mul]
    omega

/-- The leading digit of a field comes first, and the rest is a field of one digit less. -/
theorem fixedDigits_succ (width value : Nat) :
    fixedDigits (width + 1) value =
      digitCharacter (value / 10 ^ width % 10) :: fixedDigits width value := by
  induction width generalizing value with
  | zero => rw [fixedDigits, Nat.pow_zero, Nat.div_one]; rfl
  | succ width inductionHypothesis =>
    rw [fixedDigits, inductionHypothesis, List.cons_append, Nat.div_div_eq_div_mul,
      ← Nat.pow_add_one']
    rfl

/-- Digits are read after a number, and what follows them is left. -/
theorem readDigitsAfter?_fixedDigits (total width value : Nat) (rest : List Char) :
    readDigitsAfter? total (width + 1) (fixedDigits (width + 1) value ++ rest) =
      some (10 ^ (width + 1) * total + value % 10 ^ (width + 1), rest) := by
  induction width generalizing total with
  | zero =>
    have small : value % 10 < 10 := Nat.mod_lt _ (by decide)
    simp [fixedDigits, readDigitsAfter?, asciiDigitValue?_digitCharacter small]
  | succ width inductionHypothesis =>
    have small : value / 10 ^ (width + 1) % 10 < 10 := Nat.mod_lt _ (by decide)
    rw [fixedDigits_succ, List.cons_append, readDigitsAfter?,
      asciiDigitValue?_digitCharacter small, Option.bind_some, inductionHypothesis]
    have split : value % 10 ^ (width + 2) =
        10 ^ (width + 1) * (value / 10 ^ (width + 1) % 10) + value % 10 ^ (width + 1) := by
      rw [Nat.pow_succ 10 (width + 1), Nat.mod_mul, Nat.add_comm]
    rw [split, Nat.pow_succ 10 (width + 1), Nat.mul_add, Nat.add_assoc, Nat.mul_assoc]
    · simp

/-- A number that fits its field is read back. -/
theorem readDigits?_fixedDigits {width value : Nat} (fits : value < 10 ^ (width + 1))
    (rest : List Char) :
    readDigits? (width + 1) (fixedDigits (width + 1) value ++ rest) = some (value, rest) := by
  rw [readDigits?, readDigitsAfter?_fixedDigits, Nat.mul_zero, Nat.zero_add, Nat.mod_eq_of_lt fits]

/-- Only the character of a digit is read as the digit. -/
theorem eq_digitCharacter_of_asciiDigitValue? {character : Char} {digit : Nat}
    (read : asciiDigitValue? character = some digit) : character = digitCharacter digit := by
  unfold asciiDigitValue? at read
  split at read
  · next inRun =>
    have lower : 0x30 ≤ character.toNat := inRun.1
    cases read
    have code : 0x30 + (character.toNat - '0'.toNat) = character.toNat :=
      Nat.add_sub_cancel' lower
    rw [digitCharacter, code, Char.ofNat_toNat]
  · cases read

/-- The digits of a field depend only on what its width can hold. -/
theorem fixedDigits_add_mul (width digit value : Nat) :
    fixedDigits width (10 ^ width * digit + value) = fixedDigits width value := by
  induction width generalizing digit value with
  | zero => rfl
  | succ width inductionHypothesis =>
    have last : (10 ^ (width + 1) * digit + value) % 10 = value % 10 := by
      rw [Nat.pow_succ, Nat.mul_assoc, Nat.mul_left_comm, Nat.mul_add_mod]
    have front : (10 ^ (width + 1) * digit + value) / 10 = 10 ^ width * digit + value / 10 := by
      rw [Nat.pow_succ', Nat.mul_assoc, Nat.mul_add_div (by decide)]
    rw [fixedDigits, fixedDigits, last, front, inductionHypothesis]

/-- One more digit in front of the digits of a field makes a field of one digit more. -/
theorem digitCharacter_cons_fixedDigits {width digit value : Nat} (small : digit < 10)
    (fits : value < 10 ^ width) :
    digitCharacter digit :: fixedDigits width value =
      fixedDigits (width + 1) (10 ^ width * digit + value) := by
  have leading : (10 ^ width * digit + value) / 10 ^ width % 10 = digit := by
    rw [Nat.mul_add_div (Nat.pow_pos (by decide)), Nat.div_eq_of_lt fits, Nat.add_zero,
      Nat.mod_eq_of_lt small]
  rw [fixedDigits_succ, leading, fixedDigits_add_mul]

/-- Digits that are read after a number were written for what they add to it. -/
theorem eq_fixedDigits_of_readDigitsAfter? {total width value : Nat} {characters rest : List Char}
    (read : readDigitsAfter? total (width + 1) characters = some (value, rest)) :
    ∃ added, added < 10 ^ (width + 1) ∧ value = 10 ^ (width + 1) * total + added ∧
      characters = fixedDigits (width + 1) added ++ rest := by
  induction width generalizing total characters with
  | zero =>
    cases characters with
    | nil => cases read
    | cons character others =>
      rw [readDigitsAfter?] at read
      obtain ⟨digit, digitRead, same⟩ := Option.map_eq_some_iff.mp read
      cases same
      have small : digit < 10 := asciiDigitValue?_lt_ten digitRead
      refine ⟨digit, small, rfl, ?_⟩
      rw [fixedDigits_succ, eq_digitCharacter_of_asciiDigitValue? digitRead, Nat.pow_zero,
        Nat.div_one, Nat.mod_eq_of_lt small]
      rfl
  | succ width inductionHypothesis =>
    cases characters with
    | nil => cases read
    | cons character others =>
      have step : readDigitsAfter? total (width + 2) (character :: others) =
          (asciiDigitValue? character).bind fun digit =>
            readDigitsAfter? (10 * total + digit) (width + 1) others := by
        rw [readDigitsAfter?]
        simp
      obtain ⟨digit, digitRead, othersRead⟩ := Option.bind_eq_some_iff.mp (step.symm.trans read)
      obtain ⟨added, fits, rfl, rfl⟩ := inductionHypothesis othersRead
      have small : digit < 10 := asciiDigitValue?_lt_ten digitRead
      have more : 10 ^ (width + 2) = 10 * 10 ^ (width + 1) := Nat.pow_succ'
      have bound : 10 ^ (width + 1) * digit ≤ 10 ^ (width + 1) * 9 :=
        Nat.mul_le_mul_left _ (by omega)
      refine ⟨10 ^ (width + 1) * digit + added, by omega, ?_, ?_⟩
      · rw [more, Nat.mul_add, Nat.add_assoc, Nat.mul_left_comm, Nat.mul_assoc]
      · rw [← digitCharacter_cons_fixedDigits small fits,
          eq_digitCharacter_of_asciiDigitValue? digitRead, List.cons_append]

/-- A field is read exactly when it was written for a number that fits. -/
theorem readDigits?_eq_some_iff {width value : Nat} {characters rest : List Char} :
    readDigits? (width + 1) characters = some (value, rest) ↔
      value < 10 ^ (width + 1) ∧ characters = fixedDigits (width + 1) value ++ rest := by
  constructor
  · intro read
    obtain ⟨added, fits, rfl, shape⟩ := eq_fixedDigits_of_readDigitsAfter? read
    rw [Nat.mul_zero, Nat.zero_add]
    exact ⟨fits, shape⟩
  · rintro ⟨fits, rfl⟩
    exact readDigits?_fixedDigits fits rest

/-- A field of two digits is read where one digit would be enough. -/
theorem readOneOrTwo?_fixedDigits {value : Nat} (fits : value < 100) (rest : List Char) :
    readOneOrTwo? (fixedDigits 2 value ++ rest) = some (value, rest) := by
  rw [readOneOrTwo?, readDigits?_fixedDigits fits]

end SheetIntake.Decimal
