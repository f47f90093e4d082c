import Mathlib.Data.List.Basic
import SheetIntake.Proofs.Decimal.DigitText
import SheetIntake.Workbook.Writing

/-!
# Titles that are kept

A worksheet that is written begins with a title of its own, `Sheet` with or without a number, and is
then given the name of its sheet. The name is kept unless it is taken in some letter case: by the
title of a worksheet before it, or by the title that the worksheet itself began with. `AreKept`
rules both out, the first by `apart` and the second by `own`.
-/

namespace SheetIntake

namespace Text

theorem lowerLetter_of_isDigit {digit : Char} (isDigit : digit.isDigit = true) :
    lowerLetter digit = digit := by
  have bounds := Decimal.toNat_of_isDigit isDigit
  have each : ∀ place : Fin 10,
      lowerLetter (Char.ofNat (48 + place)) = Char.ofNat (48 + place) := by decide
  have here := each ⟨digit.toNat - 48, by omega⟩
  rwa [Fin.val_mk, Nat.add_sub_cancel' bounds.1, Char.ofNat_toNat] at here

/-- The lower case of ASCII characters is that of each alone. -/
theorem lowerAfter_of_ascii {characters : List Char} (before : List Char)
    (ascii : ∀ character ∈ characters, character.toNat < 0x80) :
    lowerAfter before characters = characters.map lowerLetter := by
  induction characters generalizing before with
  | nil => rfl
  | cons character rest inductionHypothesis =>
    obtain ⟨here, later⟩ := List.forall_mem_cons.mp ascii
    rw [lowerAfter, if_neg (by omega), if_neg (by omega), inductionHypothesis _ later,
      List.map_cons]
    rfl

end Text

namespace Workbook

open Text Writing

namespace Title

/-- The lower case of the title of a new worksheet with a number. -/
theorem lower_newTitle_append {number : String}
    (digits : ∀ digit ∈ number.toList, digit.isDigit = true) :
    lower (newTitle ++ number) = lower newTitle ++ number := by
  have wordAscii : ∀ character ∈ newTitle.toList, character.toNat < 0x80 := by
    have all : newTitle.toList.all (fun character => character.toNat < 0x80) = true := by decide
    simpa using all
  have ascii : ∀ character ∈ newTitle.toList ++ number.toList, character.toNat < 0x80 := by
    intro character present
    rcases List.mem_append.mp present with inWord | inNumber
    · exact wordAscii character inWord
    · have bounds := Decimal.toNat_of_isDigit (digits character inNumber)
      omega
  have same : number.toList.map lowerLetter = number.toList := by
    rw [List.map_congr_left fun digit present => lowerLetter_of_isDigit (digits digit present),
      List.map_id']
  rw [lower, lower, String.toList_append, lowerAfter_of_ascii [] ascii, List.map_append, same,
    lowerAfter_of_ascii [] wordAscii, String.ofList_append, String.ofList_toList]

/-- Whether a title is in lower case the title of a new worksheet, but is not so itself. -/
def isRespelled (title : String) : Bool :=
  let number := String.ofList ((lower title).toList.drop newTitle.length)
  number.toList.all Char.isDigit && lower title = lower newTitle ++ number &&
    title ≠ newTitle ++ number

/-- Whether worksheets that are written under these titles keep them. -/
structure AreKept (titles : List String) : Prop where
  apart : (titles.map lower).Nodup
  own : ∀ title ∈ titles, isRespelled title = false

theorem isDigit_of_mem_toString {number : Nat} {digit : Char}
    (present : digit ∈ (toString number).toList) : digit.isDigit = true := by
  have shape : (toString number).toList = Nat.toDigits 10 number := Nat.toList_repr
  rw [shape] at present
  exact Nat.isDigit_of_mem_toDigits (by decide) (by decide) present

/-- A new worksheet begins with a title of its own, with or without a number. -/
theorem exists_unused_newTitle (titles : List String) :
    ∃ number : String, (∀ digit ∈ number.toList, digit.isDigit = true) ∧
      unused titles newTitle = newTitle ++ number := by
  unfold unused
  split
  · split
    · exact ⟨"", by simp, by simp⟩
    · exact ⟨_, fun _ => isDigit_of_mem_toString, rfl⟩
  · exact ⟨"", by simp, by simp⟩

/-- Only a respelled title is taken by the one that a worksheet begins with and is another. -/
theorem eq_of_lower_eq_unused {titles : List String} {title : String}
    (plain : isRespelled title = false)
    (same : lower title = lower (unused titles newTitle)) : title = unused titles newTitle := by
  obtain ⟨number, digits, shape⟩ := exists_unused_newTitle titles
  rw [shape, lower_newTitle_append digits] at same
  rw [shape]
  have rest : String.ofList ((lower title).toList.drop newTitle.length) = number := by
    have word : (lower newTitle).toList.length = newTitle.length := by decide
    rw [same, String.toList_append, ← word, List.drop_left, String.ofList_toList]
  have allDigits : number.toList.all Char.isDigit = true := List.all_eq_true.mpr digits
  unfold isRespelled at plain
  dsimp only at plain
  rw [rest, allDigits, same, decide_eq_true rfl, Bool.true_and, Bool.true_and] at plain
  simpa using plain

end Title

end Workbook

end SheetIntake
