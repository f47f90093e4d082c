import SheetIntake.Fault.Reading

/-!
# Schemas of a file

The content of a schema file maps sheet names to schemas. Its shape is checked part by part: rules
by their kind, schemas by their fields, and the consistency of a schema only when its parts are
without fault.
-/

namespace SheetIntake

/-- The allowed values of a rule. -/
def readAllowed : Value → Checked (Option (List String))
  | .null => .ok none
  | .list items => (Checked.readItems Checked.readText items).map some
  | _ => .fault .tupleType

/-- The parts that all rules share, the condition of one kind, and no others. -/
def readRuleParts {α : Type} (fields : Row) (others : List String) (condition : Checked α)
    (kind : α → RuleKind) : Checked Rule :=
  let required := Checked.readDefault fields "required" false Checked.readBool
  let allowed := Checked.readDefault fields "allowed_values" none readAllowed
  let known := ["required", "allowed_values", "kind"] ++ others
  ((((required.both allowed).both condition).both (Checked.readNoOthers fields known))).map
    fun (((required, allowed), condition), _) => ⟨kind condition, required, allowed⟩

/-- A rule, whose kind decides which parts it has. -/
def Rule.read : Value → Checked Rule
  | .record fields =>
    match Assoc.get? fields "kind" with
    | none => .fault .unionTagNotFound
    | some (.text tag) =>
      if tag = "string" then
        (readRuleParts fields [] (.ok ()) fun _ => .text).under (.name tag)
      else if tag = "number" then
        (readRuleParts fields ["min"]
          (Checked.readDefault fields "min" none (Checked.readOptional Checked.readFloat))
          .number).under (.name tag)
      else if tag = "date" then
        (readRuleParts fields ["current_month"]
          (Checked.readDefault fields "current_month" false Checked.readBool)
          .date).under (.name tag)
      else .fault .unionTagInvalid
    | some _ => .fault .unionTagInvalid
  | _ => .fault .modelAttributesType

/-- A schema. -/
def Schema.read : Value → Checked Schema
  | .record fields =>
    let mapping := Checked.readRequired fields "column_mapping"
      (Checked.readEntries Checked.readText)
    let rules := Checked.readRequired fields "validation_rules" (Checked.readEntries Rule.read)
    let key := Checked.readDefault fields "key_field" "name" Checked.readText
    let known := ["column_mapping", "validation_rules", "key_field"]
    match ((mapping.both rules).both key).both (Checked.readNoOthers fields known) with
    | .ok (((mapping, rules), key), _) =>
      match Schema.build mapping rules key with
      | .ok schema => .ok schema
      | .error why => .fault (.inconsistent why)
    | .error faults => .error faults
  | _ => .fault .modelType

/-- The schemas of a file, by sheet name. -/
def Schema.readFile : Value → Checked (List (String × Schema)) :=
  Checked.readEntries Schema.read

end SheetIntake
