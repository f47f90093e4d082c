import SheetIntake.Schema.Basic

/-!
# Faults of structured input

Schema files, requests, records and error descriptors are checked against a shape. Each thing that
does not fit is a fault: what kind of fault it is, and the path of names and places that leads to
it. A check collects all its faults in a fixed order.
-/

namespace SheetIntake

/-- One step of the path to a part of a value. -/
inductive PathStep where
  | name (name : String)
  | place (index : Nat)
  deriving DecidableEq, Repr

/-- What is wrong with a part. -/
inductive FaultKind where
  | missing
  | extraForbidden
  | dictType
  | listType
  | tupleType
  | stringType
  | stringTooShort
  | boolType
  | boolParsing
  | floatType
  | floatParsing
  | dateTimeType
  | dateTimeParsing
  | literalError
  | modelType
  | modelAttributesType
  | unionTagNotFound
  | unionTagInvalid
  | belowLeast
  | inconsistent (why : Inconsistency)
  deriving DecidableEq, Repr

namespace FaultKind

/-- The word for a kind of fault. -/
def name : FaultKind → String
  | missing => "missing"
  | extraForbidden => "extra_forbidden"
  | dictType => "dict_type"
  | listType => "list_type"
  | tupleType => "tuple_type"
  | stringType => "string_type"
  | stringTooShort => "string_too_short"
  | boolType => "bool_type"
  | boolParsing => "bool_parsing"
  | floatType => "float_type"
  | floatParsing => "float_parsing"
  | dateTimeType => "datetime_type"
  | dateTimeParsing => "datetime_parsing"
  | literalError => "literal_error"
  | modelType => "model_type"
  | modelAttributesType => "model_attributes_type"
  | unionTagNotFound => "union_tag_not_found"
  | unionTagInvalid => "union_tag_invalid"
  | belowLeast => "greater_than_equal"
  | inconsistent _ => "value_error"

/-- What is said about a fault, for the kinds that say more than their word. -/
def message? : FaultKind → Option String
  | inconsistent why => some ("Value error, " ++ why.message)
  | _ => none

end FaultKind

/-- A part that does not fit its shape. -/
structure Fault where
  kind : FaultKind
  path : List PathStep
  deriving DecidableEq, Repr

/-- A fault of a part, seen from the whole. -/
def Fault.under (step : PathStep) (fault : Fault) : Fault :=
  { fault with path := step :: fault.path }

/-- The outcome of a check: what the input stands for, or all its faults. -/
abbrev Checked (α : Type) := Except (List Fault) α

namespace Checked

variable {α β : Type}

/-- A check that finds one fault in the whole input. -/
def fault (kind : FaultKind) : Checked α := .error [⟨kind, []⟩]

/-- The check of a part, with its faults seen from the whole. -/
def under (step : PathStep) (checked : Checked α) : Checked α :=
  checked.mapError fun faults => faults.map (·.under step)

/-- Two checks together; the faults of the first come first. -/
def both (first : Checked α) (second : Checked β) : Checked (α × β) :=
  match first, second with
  | .ok left, .ok right => .ok (left, right)
  | .ok _, .error faults => .error faults
  | .error faults, .ok _ => .error faults
  | .error left, .error right => .error (left ++ right)

/-- All checks of a list together. -/
def all : List (Checked α) → Checked (List α)
  | [] => .ok []
  | first :: rest => (both first (all rest)).map fun (value, values) => value :: values

end Checked

end SheetIntake
