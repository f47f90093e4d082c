import SheetIntake.Proofs.Store.Batch
import SheetIntake.Proofs.Store.Draft

/-!
# The invariant of the store

A store grows by the records of rows that can be stored, which are put at its end under the next
free identifiers. `Store.Grows` is that relation between two stores; it is reflexive and transitive,
and storing a batch respects it whether the batch is taken or not. What grows from a sound store is
sound, and has the records that were there before at its front.
-/

namespace SheetIntake

open Calendar

/-- What every stored record is: it has a name, its amount is a number, and its mark is one of two
words. Its date is a date-time, which never has an offset. -/
structure Record.Sound (record : Record) : Prop where
  named : record.name ≠ ""
  counted : Decimal.isNotANumber record.amount = false
  marked : record.verified.text = "Yes" ∨ record.verified.text = "No"

/-- The amount that is stored for a number is a number. -/
theorem isNotANumber_storedAmount {amount : Float}
    (known : Decimal.isNotANumber amount = false) :
    Decimal.isNotANumber (storedAmount amount) = false := by
  unfold storedAmount
  split
  · decide
  · exact known

namespace Store

/-- Sound records, numbered from one on in the order in which they were added. -/
structure Sound (store : Store) : Prop where
  numbered : store.records.map Record.identifier = List.range' 1 store.records.length
  records : ∀ record ∈ store.records, record.Sound

/-- A store with the records of given rows at its end. -/
def GrowsBy (store : Store) (rows : List Row) (next : Store) : Prop :=
  ∃ records, Record.ofRows? store.nextIdentifier rows = some records ∧
    next = ⟨store.records ++ records⟩

/-- A store with the records of some rows at its end. -/
def Grows (store next : Store) : Prop :=
  ∃ rows records, Record.ofRows? store.nextIdentifier rows = some records ∧
    next = ⟨store.records ++ records⟩

namespace GrowsBy

variable {store middle next : Store} {rows more : List Row}

theorem refl (store : Store) : GrowsBy store [] store :=
  ⟨[], rfl, by rw [List.append_nil]⟩

theorem trans (first : GrowsBy store rows middle) (second : GrowsBy middle more next) :
    GrowsBy store (rows ++ more) next := by
  obtain ⟨records, stored, rfl⟩ := first
  obtain ⟨others, othersStored, rfl⟩ := second
  rw [nextIdentifier_append (Record.identifiers_ofRows? stored),
    Record.length_ofRows? stored] at othersStored
  exact ⟨records ++ others, Record.ofRows?_append stored othersStored, by rw [List.append_assoc]⟩

end GrowsBy

namespace Grows

variable {store middle next : Store}

theorem refl (store : Store) : Grows store store :=
  ⟨[], GrowsBy.refl store⟩

theorem trans (first : Grows store middle) (second : Grows middle next) : Grows store next := by
  obtain ⟨rows, firstRows⟩ := first
  obtain ⟨more, secondRows⟩ := second
  exact ⟨rows ++ more, GrowsBy.trans firstRows secondRows⟩

/-- The records that were there before are at the front, unchanged. -/
theorem isPrefix (grows : Grows store next) : store.records <+: next.records := by
  obtain ⟨_, records, _, rfl⟩ := grows
  exact List.prefix_append _ records

end Grows

/-- A batch is stored as a whole, or it is refused and leaves the store as it was. -/
theorem insertBatch_cases (store : Store) (rows : List Row) :
    (∃ next, store.insertBatch rows = (.ok rows.length, next) ∧ GrowsBy store rows next) ∨
      ∃ failure, store.insertBatch rows = (.error failure, store) := by
  cases stored : Record.ofRows? store.nextIdentifier rows with
  | some records => exact .inl ⟨_, insertBatch_of_stored stored, records, stored, rfl⟩
  | none => exact .inr (insertBatch_of_refused stored)

/-- Two stores take a batch or refuse it together and for the same cause. -/
theorem insertBatch_together (store other : Store) (rows : List Row) :
    (∃ next otherNext, store.insertBatch rows = (.ok rows.length, next) ∧
        other.insertBatch rows = (.ok rows.length, otherNext)) ∨
      ∃ failure, store.insertBatch rows = (.error failure, store) ∧
        other.insertBatch rows = (.error failure, other) := by
  have same := insertBatch_outcome store other rows
  rcases insertBatch_cases store rows with ⟨next, inserted, _⟩ | ⟨failure, refused⟩ <;>
    rcases insertBatch_cases other rows with
      ⟨otherNext, otherInserted, _⟩ | ⟨otherFailure, otherRefused⟩
  · exact .inl ⟨next, otherNext, inserted, otherInserted⟩
  · rw [inserted, otherRefused] at same
    cases same
  · rw [refused, otherInserted] at same
    cases same
  · rw [refused, otherRefused] at same
    cases same
    exact .inr ⟨failure, refused, otherRefused⟩

theorem grows_insertBatch (store : Store) (rows : List Row) :
    Grows store (store.insertBatch rows).2 := by
  rcases insertBatch_cases store rows with ⟨next, inserted, grows⟩ | ⟨failure, refused⟩
  · rw [inserted]
    exact ⟨rows, grows⟩
  · rw [refused]
    exact Grows.refl store

/-- The records of rows are sound. -/
theorem sound_of_mem_ofRows? {first : Nat} {rows : List Row} {records : List Record}
    (stored : Record.ofRows? first rows = some records) {record : Record}
    (present : record ∈ records) : record.Sound := by
  obtain ⟨row, _, draft, moment, read, _, known, equal⟩ :=
    Outcome.exists_matched_of_mem (Record.forall₂_isOf stored) present
  rw [equal]
  refine ⟨Draft.name_ne_empty read, ?_, ?_⟩
  · exact isNotANumber_storedAmount known
  · cases marked : draft.verified with
    | yes => left; simp [Record.ofDraft, marked, Verified.text]
    | no => right; simp [Record.ofDraft, marked, Verified.text]

/-- The next identifier of a sound store is one more than the number of its records. -/
theorem Sound.nextIdentifier {store : Store} (sound : store.Sound) :
    store.nextIdentifier = store.records.length + 1 := by
  have fromEmpty := @nextIdentifier_append .empty store.records sound.numbered
  simpa [empty, Store.nextIdentifier, Nat.add_comm] using fromEmpty

theorem sound_empty : Store.empty.Sound := ⟨rfl, by simp [empty]⟩

/-- Growing keeps a store sound. -/
theorem Sound.of_grows {store next : Store} (sound : store.Sound) (grows : Grows store next) :
    next.Sound := by
  obtain ⟨rows, records, stored, rfl⟩ := grows
  constructor
  · rw [List.map_append, sound.numbered, Record.identifiers_ofRows? stored, sound.nextIdentifier,
      List.length_append, Nat.add_comm _ 1, List.range'_append_1]
  · intro record present
    rcases List.mem_append.mp present with old | new
    · exact sound.records record old
    · exact sound_of_mem_ofRows? stored new

end Store

end SheetIntake
