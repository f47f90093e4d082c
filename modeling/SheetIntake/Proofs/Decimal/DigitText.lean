import Mathlib.Tactic.Ring
import SheetIntake.Decimal.Numeral
import SheetIntake.Proofs.Decimal.Fixed

/-!
# Texts of digits

A text of ASCII digits is read alike by the readers of ASCII digits and by those of digits of every
script: all of it is taken, digit by digit. Its value is split where the text is.
-/

namespace SheetIntake.Decimal

open SheetIntake.Text

/-- A text of ASCII digits. -/
def IsDigits (characters : List Char) : Prop :=
  ∀ character ∈ characters, character.isDigit = true

/-- The values of the digits of a text. -/
def digitsOf (characters : List Char) : List Nat :=
  characters.map fun character => character.toNat - '0'.toNat

/-- The number that a text of digits spells. -/
def numberOf (characters : List Char) : Nat :=
  valueOfDigits (digitsOf characters)

theorem isDigits_fixedDigits (width value : Nat) : IsDigits (fixedDigits width value) :=
  fun _ => isDigit_of_mem_fixedDigits

theorem toNat_of_isDigit {character : Char} (isDigit : character.isDigit = true) :
    48 ≤ character.toNat ∧ character.toNat ≤ 57 := by
  rw [Char.isDigit, Bool.and_eq_true, decide_eq_true_eq, decide_eq_true_eq] at isDigit
  exact isDigit

theorem ne_of_isDigit {character mark : Char} (isDigit : character.isDigit = true)
    (other : mark.isDigit = false) : character ≠ mark := by
  rintro rfl
  rw [isDigit] at other
  cases other

theorem asciiDigitValue?_of_isDigit {character : Char} (isDigit : character.isDigit = true) :
    asciiDigitValue? character = some (character.toNat - '0'.toNat) := by
  have bounds := toNat_of_isDigit isDigit
  exact if_pos bounds

theorem asciiDigitValue?_eq_none {character : Char} (other : character.isDigit = false) :
    asciiDigitValue? character = none := by
  rw [asciiDigitValue?, if_neg]
  rintro ⟨lower, upper⟩
  have isDigit : character.isDigit = true := by
    rw [Char.isDigit, Bool.and_eq_true, decide_eq_true_eq, decide_eq_true_eq]
    exact ⟨lower, upper⟩
  rw [isDigit] at other
  cases other

theorem digitValue?_of_isDigit {character : Char} (isDigit : character.isDigit = true) :
    digitValue? character = some (character.toNat - '0'.toNat) := by
  have bounds := toNat_of_isDigit isDigit
  have first : digitZeros = 0x30 :: digitZeros.tail := rfl
  have inRun : (0x30 ≤ character.toNat && character.toNat < 0x30 + 10) = true := by
    rw [Bool.and_eq_true, decide_eq_true_eq, decide_eq_true_eq]
    omega
  rw [digitValue?, first, List.find?_cons, inRun]
  rfl

theorem isBlank_of_isDigit {character : Char} (isDigit : character.isDigit = true) :
    isBlank character = false := by
  have bounds := toNat_of_isDigit isDigit
  have notSpace : inRanges spaceRanges character.toNat = false := by
    rw [← Bool.not_eq_true, inRanges_iff]
    rintro ⟨range, present, within⟩
    have apart : ∀ range ∈ spaceRanges, range.2 < 48 ∨ 57 < range.1 := by decide
    have away := apart range present
    omega
  rw [isBlank, isSpace, notSpace, Bool.false_or, Bool.and_eq_false_iff, decide_eq_false_iff_not,
    decide_eq_false_iff_not]
  omega

/-- Digits are taken from the front up to what is no digit. -/
theorem takeDigits_append {digit : Char → Option Nat} {characters rest : List Char}
    (read : ∀ character ∈ characters, digit character = some (character.toNat - '0'.toNat))
    (stops : ∀ next, rest.head? = some next → digit next = none) :
    takeDigits digit (characters ++ rest) = (digitsOf characters, rest) := by
  induction characters with
  | nil =>
    cases rest with
    | nil => rfl
    | cons next others =>
      rw [List.nil_append, takeDigits, stops next rfl]
      rfl
  | cons character others inductionHypothesis =>
    obtain ⟨here, later⟩ := List.forall_mem_cons.mp read
    rw [List.cons_append, takeDigits, here, inductionHypothesis later]
    rfl

theorem takeDigits_ascii {characters rest : List Char} (digits : IsDigits characters)
    (stops : ∀ next, rest.head? = some next → next.isDigit = false) :
    takeDigits asciiDigitValue? (characters ++ rest) = (digitsOf characters, rest) :=
  takeDigits_append (fun _ present => asciiDigitValue?_of_isDigit (digits _ present))
    fun next first => asciiDigitValue?_eq_none (stops next first)

theorem takeDigits_any {characters : List Char} (digits : IsDigits characters) :
    takeDigits digitValue? characters = (digitsOf characters, []) := by
  have all : takeDigits digitValue? (characters ++ []) = (digitsOf characters, []) :=
    takeDigits_append (fun _ present => digitValue?_of_isDigit (digits _ present)) nofun
  rwa [List.append_nil] at all

/-! ## The value of a text -/

theorem foldl_digits (start : Nat) (digits : List Nat) :
    digits.foldl (fun total digit => 10 * total + digit) start =
      start * 10 ^ digits.length + valueOfDigits digits := by
  rw [valueOfDigits]
  induction digits generalizing start with
  | nil => simp
  | cons digit rest inductionHypothesis =>
    rw [List.foldl_cons, List.foldl_cons, inductionHypothesis, inductionHypothesis (10 * 0 + digit),
      List.length_cons, Nat.pow_succ]
    ring

theorem valueOfDigits_append (front back : List Nat) :
    valueOfDigits (front ++ back) =
      valueOfDigits front * 10 ^ back.length + valueOfDigits back := by
  rw [valueOfDigits, List.foldl_append, foldl_digits]
  rfl

theorem valueOfDigits_zeros (count : Nat) : valueOfDigits (List.replicate count 0) = 0 := by
  induction count with
  | zero => rfl
  | succ count inductionHypothesis =>
    rw [List.replicate_succ', valueOfDigits_append, inductionHypothesis]
    rfl

/-- Digits that are cut or filled up with zeros to a number of places stand for as many of the last
of these places as the digits that are kept. -/
theorem valueOfDigits_padded (places : Nat) (digits : List Nat) :
    valueOfDigits ((digits ++ List.replicate places 0).take places) =
      valueOfDigits (digits.take places) * 10 ^ (places - (digits.take places).length) := by
  have left : places - (digits.take places).length = min (places - digits.length) places := by
    rw [List.length_take]
    omega
  rw [List.take_append, List.take_replicate, valueOfDigits_append, valueOfDigits_zeros,
    List.length_replicate, left, Nat.add_zero]

theorem numberOf_append (front back : List Char) :
    numberOf (front ++ back) = numberOf front * 10 ^ back.length + numberOf back := by
  rw [numberOf, digitsOf, List.map_append, valueOfDigits_append, List.length_map]
  rfl

theorem numberOf_fixedDigits {width value : Nat} (fits : value < 10 ^ width) :
    numberOf (fixedDigits width value) = value := by
  rw [numberOf, valueOfDigits, digitsOf, List.foldl_map, foldl_fixedDigits, Nat.mod_eq_of_lt fits]

/-- A text of digits is a field that was written for its value. -/
theorem fixedDigits_numberOf {characters : List Char} (digits : IsDigits characters) :
    numberOf characters < 10 ^ characters.length ∧
      fixedDigits characters.length (numberOf characters) = characters := by
  induction characters with
  | nil => exact ⟨by decide, rfl⟩
  | cons character rest inductionHypothesis =>
    obtain ⟨here, later⟩ := List.forall_mem_cons.mp digits
    obtain ⟨fits, same⟩ := inductionHypothesis later
    have bounds := toNat_of_isDigit here
    have small : character.toNat - '0'.toNat < 10 := by
      change character.toNat - 48 < 10
      omega
    have first : numberOf [character] = character.toNat - '0'.toNat := by
      simp [numberOf, digitsOf, valueOfDigits]
    have split : numberOf (character :: rest) =
        10 ^ rest.length * (character.toNat - '0'.toNat) + numberOf rest := by
      rw [← List.singleton_append, numberOf_append, first, Nat.mul_comm]
    have isDigit : digitCharacter (character.toNat - '0'.toNat) = character :=
      (eq_digitCharacter_of_asciiDigitValue? (asciiDigitValue?_of_isDigit here)).symm
    refine ⟨?_, ?_⟩
    · have bound : 10 ^ rest.length * (character.toNat - '0'.toNat) ≤ 10 ^ rest.length * 9 :=
        Nat.mul_le_mul_left _ (by omega)
      rw [split, List.length_cons, Nat.pow_succ]
      omega
    · rw [split, List.length_cons, ← digitCharacter_cons_fixedDigits small fits, same, isDigit]

end SheetIntake.Decimal
