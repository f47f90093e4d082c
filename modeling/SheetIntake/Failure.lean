import SheetIntake.Fault

/-!
# Failures

What can keep an operation from giving its answer. Some failures are foreseen and carry what they
say to the caller; the others say only of which kind they are.
-/

namespace SheetIntake

/-- Why no registry of schemas is made. -/
inductive SchemaFailure where
  | notFound
  | malformed
  | rejected (faults : List Fault)
  deriving DecidableEq, Repr

/-- Why a batch of rows is not stored. -/
inductive BatchFailure where
  /-- A row is no record; the faults are those of the first such row. -/
  | invalidRecord (faults : List Fault)
  /-- The store refuses a record for a cause. -/
  | refused (cause : String)
  deriving DecidableEq, Repr

/-- Why an operation gives no answer. -/
inductive Failure where
  | invalid (faults : List Fault)
  | schema (failure : SchemaFailure)
  | batch (failure : BatchFailure)
  /-- A number or a date leaves its range. -/
  | overflow
  /-- A value has the right type but no meaning. -/
  | badValue
  /-- A value has a type for which the operation is not defined. -/
  | badType
  /-- Bytes are not text. -/
  | undecodable
  /-- Lists and objects of a text nest deeper than they are read. -/
  | nestedTooDeeply
  /-- A part of a workbook is not well formed. -/
  | malformedMarkup
  /-- A place lies outside a list. -/
  | noSuchPlace
  /-- A text holds characters that a worksheet cannot hold. -/
  | illegalCharacter
  /-- A failure of another kind, by its name. -/
  | other (kind : String)
  deriving DecidableEq, Repr

/-- What a schema failure says. -/
def SchemaFailure.message : SchemaFailure → String
  | .notFound => "schema config not found: <path>"
  | .malformed => "invalid schema config JSON"
  | .rejected _ => "schema config validation failed"

/-- What a batch failure says. -/
def BatchFailure.message : BatchFailure → String
  | .invalidRecord _ => "Invalid record in batch"
  | .refused _ => "Batch insert failed"

end SheetIntake
