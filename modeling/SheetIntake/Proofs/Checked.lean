import SheetIntake.Fault.Reading
import SheetIntake.Proofs.Outcome

/-!
# What passes a check

A check of several parts passes when each part passes, and then stands for what the parts stand
for. The lemmas say so for two parts, for lists, for maps and for named parts; nothing here looks at
the faults of a check that does not pass.
-/

namespace SheetIntake.Checked

variable {α β : Type}

/-- Two checks pass together exactly when both pass. -/
theorem both_eq_ok_iff {first : Checked α} {second : Checked β} {parts : α × β} :
    first.both second = .ok parts ↔ first = .ok parts.1 ∧ second = .ok parts.2 := by
  obtain ⟨left, right⟩ := parts
  cases first <;> cases second <;> simp [both]

/-- Where a part stands does not matter to whether it passes. -/
@[simp] theorem under_eq_ok_iff {step : PathStep} {checked : Checked α} {value : α} :
    checked.under step = .ok value ↔ checked = .ok value := by
  cases checked <;> simp [under, Except.mapError]

@[simp] theorem under_ok (step : PathStep) (value : α) :
    under step (.ok value : Checked α) = .ok value := rfl

/-- All checks of a list pass exactly when each one passes. -/
theorem all_eq_ok_iff {checks : List (Checked α)} {values : List α} :
    all checks = .ok values ↔ checks = values.map .ok := by
  induction checks generalizing values with
  | nil => cases values <;> simp [all]
  | cons first rest inductionHypothesis =>
    rw [all, Outcome.map_eq_ok_iff]
    constructor
    · rintro ⟨parts, passed, rfl⟩
      obtain ⟨firstPassed, restPassed⟩ := both_eq_ok_iff.mp passed
      simp [firstPassed, inductionHypothesis.mp restPassed]
    · intro equal
      cases values with
      | nil => cases equal
      | cons value others =>
        obtain ⟨rfl, restEqual⟩ := List.cons_eq_cons.mp equal
        exact ⟨(value, others), both_eq_ok_iff.mpr ⟨rfl, inductionHypothesis.mpr restEqual⟩, rfl⟩

/-- Only a text passes as a text. -/
theorem readText_eq_ok_iff {value : Value} {text : String} :
    readText value = .ok text ↔ value = .text text := by
  cases value <;> simp [readText, fault]

/-- A named part that must be there passes when it is there and passes alone. -/
theorem readRequired_eq_ok_iff {fields : Row} {name : String} {read : Value → Checked α}
    {value : α} :
    readRequired fields name read = .ok value ↔
      ∃ given, Assoc.get? fields name = some given ∧ read given = .ok value := by
  unfold readRequired
  cases Assoc.get? fields name with
  | none => simp [fault]
  | some given => simp

/-- A named part that may be left out passes when it is there and passes alone, or when it is left
out, and then stands for its default. -/
theorem readDefault_eq_ok_iff {fields : Row} {name : String} {absent : α}
    {read : Value → Checked α} {value : α} :
    readDefault fields name absent read = .ok value ↔
      (∃ given, Assoc.get? fields name = some given ∧ read given = .ok value) ∨
        Assoc.get? fields name = none ∧ absent = value := by
  unfold readDefault
  cases Assoc.get? fields name with
  | none => simp
  | some given => simp

/-- There are no parts but the known ones exactly when all names are known. -/
theorem readNoOthers_eq_ok_iff {fields : Row} {names : List String} {nothing : Unit} :
    readNoOthers fields names = .ok nothing ↔ ∀ name ∈ Assoc.keys fields, name ∈ names := by
  have known : (fields.filter fun entry => !names.contains entry.1) = [] ↔
      ∀ name ∈ Assoc.keys fields, name ∈ names := by
    simp [Assoc.keys]
  rw [← known]
  unfold readNoOthers
  split
  · next none => exact iff_of_true rfl none
  · next some => exact iff_of_false (by rintro ⟨⟩) some

/-- A map passes exactly when each of its values does, and keeps its names in their order. -/
theorem readEntries_eq_ok_iff {read : Value → Checked α} {value : Value}
    {entries : List (String × α)} :
    readEntries read value = .ok entries ↔
      ∃ fields, value = .record fields ∧
        List.Forall₂ (fun field entry => field.1 = entry.1 ∧ read field.2 = .ok entry.2)
          fields entries := by
  cases value with
  | record fields =>
    have each : ∀ (field : String × Value) (entry : String × α),
        (((read field.2).under (.name field.1)).map fun checked => (field.1, checked)) =
          .ok entry ↔ field.1 = entry.1 ∧ read field.2 = .ok entry.2 := by
      rintro field ⟨name, checked⟩
      simp [Outcome.map_eq_ok_iff, and_comm]
    rw [readEntries, all_eq_ok_iff, ← List.forall₂_eq_eq_eq, List.forall₂_map_left_iff,
      List.forall₂_map_right_iff]
    simp [each]
  | _ => simp [readEntries, fault]

/-- A list passes when each of its items does. -/
theorem readList_map {γ : Type} {read : Value → Checked α} {item : γ → Value} {value : γ → α}
    (passes : ∀ entry, read (item entry) = .ok (value entry)) (entries : List γ) :
    readList read (.list (entries.map item)) = .ok (entries.map value) := by
  rw [readList, readItems, all_eq_ok_iff]
  apply List.ext_getElem
  · simp
  · intro index _ _
    simp [passes]

/-- A map passes when each of its values does, and keeps its names in their order. -/
theorem readEntries_map {γ : Type} {read : Value → Checked α} {item : γ → Value} {value : γ → α}
    (passes : ∀ entry, read (item entry) = .ok (value entry)) (entries : List (String × γ)) :
    readEntries read (.record (entries.map fun entry => (entry.1, item entry.2))) =
      .ok (entries.map fun entry => (entry.1, value entry.2)) := by
  rw [readEntries, all_eq_ok_iff, List.map_map, List.map_map]
  apply List.map_congr_left
  intro entry _
  simp [passes, Except.map]

end SheetIntake.Checked
