import SheetIntake.Proofs.Checked
import SheetIntake.Store.Draft

/-!
# What makes a draft

A row is a draft exactly when its four fields are, each looked at alone. Other fields of the row do
not matter.
-/

namespace SheetIntake.Draft

open Checked

/-- The draft of a row has the fields of the row. -/
theorem read_eq_ok_iff {row : Row} {draft : Draft} :
    Draft.read row = .ok draft ↔
      readRequired row "name" readName = .ok draft.name ∧
        readRequired row "amount" readFloat = .ok draft.amount ∧
        readRequired row "date" readDate = .ok draft.date ∧
        readDefault row "verified" .no readVerified = .ok draft.verified := by
  obtain ⟨name, amount, date, verified⟩ := draft
  rw [Draft.read, Outcome.map_eq_ok_iff]
  simp only [both_eq_ok_iff, Prod.exists, Draft.mk.injEq]
  constructor
  · rintro ⟨_, _, _, _, ⟨⟨⟨named, counted⟩, dated⟩, marked⟩, rfl, rfl, rfl, rfl⟩
    exact ⟨named, counted, dated, marked⟩
  · rintro ⟨named, counted, dated, marked⟩
    exact ⟨name, amount, date, verified, ⟨⟨⟨named, counted⟩, dated⟩, marked⟩, rfl, rfl, rfl, rfl⟩

/-- A value is read as a name when it is that name and not empty. -/
theorem readName_eq_ok_iff {value : Value} {name : String} :
    readName value = .ok name ↔ value = .text name ∧ name.isEmpty = false := by
  constructor
  · intro read
    cases value with
    | text content =>
      rw [readName, readText] at read
      dsimp only at read
      split at read
      · cases read
      · next present =>
        cases read
        exact ⟨rfl, Bool.not_eq_true _ ▸ present⟩
    | null | bool _ | int _ | float _ | moment _ | stamp _ | date _ | time _ | duration _ | list _
    | record _ => cases read
  · rintro ⟨rfl, present⟩
    rw [readName, readText]
    dsimp only
    rw [present, if_neg Bool.false_ne_true]

/-- A row is a draft only if its name is a text that is not empty. -/
theorem name_of_read {row : Row} {draft : Draft} (read : Draft.read row = .ok draft) :
    row.field "name" = .text draft.name ∧ draft.name.isEmpty = false := by
  have named := (read_eq_ok_iff.mp read).1
  unfold readRequired at named
  split at named
  · next value found =>
    rw [Row.field, found]
    exact readName_eq_ok_iff.mp (under_eq_ok_iff.mp named)
  · cases named

/-- The name of a draft is not empty. -/
theorem name_ne_empty {row : Row} {draft : Draft} (read : Draft.read row = .ok draft) :
    draft.name ≠ "" := by
  intro empty
  have present := (name_of_read read).2
  rw [empty] at present
  cases present

end SheetIntake.Draft
