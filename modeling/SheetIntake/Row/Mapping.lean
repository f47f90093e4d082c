import SheetIntake.Schema.Basic
import SheetIntake.Value.Reading

/-!
# Mapping rows

A row is mapped to the fields of its schema, in mapping order. Numbers and dates are read from the
values of number and date columns, unless the value does not count as given; a value that cannot
be read becomes null. All other values are taken as they are.
-/

namespace SheetIntake

open Calendar

/-- The value of a number that was read, or null for none. -/
def numberValue : Option Float → Value
  | some number => .float number
  | none => .null

/-- The value of a date that was read, or null for none. -/
def dateValue : Option DateTime → Value
  | some clock => .dateTime clock
  | none => .null

/-- The value that a column of a kind gives its field. -/
def RuleKind.coerce (site : Site) (kind : RuleKind) (value : Value) : Except Failure Value :=
  match kind with
  | .text => .ok value
  | .number _ => value.readNumber.map numberValue
  | .date _ => (value.readDate site).map dateValue

/-- The value of a field, from the value of its column and the column's rule. -/
def mapValue (site : Site) (rule : Option Rule) (value : Value) : Except Failure Value :=
  match rule with
  | some rule => if value.isTruthy then rule.kind.coerce site value else .ok value
  | none => .ok value

/-- The row of fields that a row of columns gives. -/
def mapRow (site : Site) (row : Row) (schema : Schema) : Except Failure Row :=
  schema.mapping.mapM fun (column, field) => do
    let value ← mapValue site (Assoc.get? schema.rules column) (row.field column)
    return (field, value)

end SheetIntake
