import SheetIntake.Failure
import SheetIntake.Store.Record

/-!
# Batches

Rows are stored in batches. A batch is stored as a whole or not at all: first every row has to be a
draft, then every date has to be known, and then the records are added one after the other until all
are in or one is refused, which leaves the store as it was.
-/

namespace SheetIntake.Store

open Calendar

/-- What is said of a date that is no moment. -/
def unknownDate : String := "cannot convert float NaN to integer"

/-- What is said of an amount that is no number. -/
def unknownAmount : String := "NOT NULL constraint failed: records.amount"

/-- The drafts of rows, or the faults of the first row that is none. -/
def readDrafts : List Row → Checked (List Draft)
  | [] => .ok []
  | row :: rest => do
    let draft ← Draft.read row
    let drafts ← readDrafts rest
    return draft :: drafts

/-- Each draft with what the clock of its date shows. -/
def datedDrafts (drafts : List Draft) : Except String (List (Draft × DateTime)) :=
  drafts.mapM fun draft =>
    match draft.date.moment? with
    | some moment => .ok (draft, moment.clock)
    | none => .error unknownDate

/-- Adds the records of drafts until one is refused. -/
def addAll (store : Store) : List (Draft × DateTime) → Except String Store
  | [] => .ok store
  | (draft, date) :: rest =>
    if Decimal.isNotANumber draft.amount then .error unknownAmount
    else (store.append (.ofDraft store.nextIdentifier draft date)).addAll rest

/-- The store after a batch of rows, or why the batch is not stored. -/
def addBatch (store : Store) (rows : List Row) : Except BatchFailure Store :=
  match readDrafts rows with
  | .error faults => .error (.invalidRecord faults)
  | .ok drafts =>
    match (datedDrafts drafts).bind store.addAll with
    | .error cause => .error (.refused cause)
    | .ok next => .ok next

/-- Stores a batch of rows. The outcome is the number of rows or the failure, and the store is
changed only when there is no failure. -/
def insertBatch (store : Store) (rows : List Row) : Except BatchFailure Nat × Store :=
  match store.addBatch rows with
  | .ok next => (.ok rows.length, next)
  | .error failure => (.error failure, store)

end SheetIntake.Store
