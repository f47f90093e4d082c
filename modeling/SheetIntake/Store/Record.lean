import SheetIntake.Store.Draft

/-!
# Records and the store

The store is a list of records in the order in which they were added. Each record has an identifier,
one more than the greatest before it. A record keeps what the clock of its date shows, without any
offset, and has zero for negative zero.
-/

namespace SheetIntake

open Calendar

/-- A stored record. -/
structure Record where
  identifier : Nat
  name : String
  amount : Float
  date : DateTime
  verified : Verified

/-- All stored records. -/
structure Store where
  records : List Record

namespace Store

/-- The store without records. -/
def empty : Store := ⟨[]⟩

/-- The identifier of the next record. -/
def nextIdentifier (store : Store) : Nat :=
  (store.records.map Record.identifier).foldl max 0 + 1

/-- The store with one more record at its end. -/
def append (store : Store) (record : Record) : Store := ⟨store.records ++ [record]⟩

end Store

/-- An amount as it is stored. -/
def storedAmount (amount : Float) : Float :=
  if Decimal.isZero amount then 0.0 else amount

/-- The record of a draft whose date is known. -/
def Record.ofDraft (identifier : Nat) (draft : Draft) (date : DateTime) : Record :=
  ⟨identifier, draft.name, storedAmount draft.amount, date, draft.verified⟩

end SheetIntake
