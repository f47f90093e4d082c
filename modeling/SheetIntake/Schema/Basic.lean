import SheetIntake.Assoc
import SheetIntake.Schema.Rule
import SheetIntake.Text.Quoted

/-!
# Schemas

A schema maps column headers to field names and gives a rule for each column. Mapping and rules
name each column once. In a schema every mapped column has a rule, no two columns map to one field,
and the key field is one of the fields. `Schema.build` checks these three conditions in this order
and names what breaks the first that fails.
-/

namespace SheetIntake

/-- What makes a schema inconsistent. -/
inductive Inconsistency where
  | columnsWithoutRule (columns : List String)
  | repeatedFields (fields : List String)
  | keyNotMapped (key : String)
  deriving DecidableEq, Repr

/-- What is said about an inconsistent schema. -/
def Inconsistency.message : Inconsistency → String
  | .columnsWithoutRule columns =>
    "columns without validation rules: " ++ ", ".intercalate columns
  | .repeatedFields fields => "duplicate canonical fields: " ++ ", ".intercalate fields
  | .keyNotMapped key => "key field " ++ Text.quoted key ++ " is not a mapped canonical field"

/-- Column mapping, rules and key field of one sheet. -/
structure Schema where
  mapping : List (String × String)
  rules : List (String × Rule)
  keyField : String
  columns_nodup : (Assoc.keys mapping).Nodup
  rules_nodup : (Assoc.keys rules).Nodup
  covered : ∀ column ∈ Assoc.keys mapping, Assoc.contains rules column = true
  fields_nodup : (Assoc.values mapping).Nodup
  key_mapped : keyField ∈ Assoc.values mapping

namespace Schema

/-- The headers a sheet must have, in mapping order. -/
def requiredColumns (schema : Schema) : List String := Assoc.keys schema.mapping

/-- The fields of a mapped row, in mapping order. -/
def fields (schema : Schema) : List String := Assoc.values schema.mapping

/-- The mapped columns without a rule, in mapping order. -/
def columnsWithoutRule (mapping : List (String × String)) (rules : List (String × Rule)) :
    List String :=
  (Assoc.keys mapping).filter fun column => !Assoc.contains rules column

/-- The fields to which several columns map, each once, sorted by code points. -/
def repeatedFields (mapping : List (String × String)) : List String :=
  let fields := Assoc.values mapping
  (Assoc.distinct (fields.filter fun field => 1 < fields.count field)).mergeSort
    fun left right => left ≤ right

/-- The schema of a mapping and rules that name each column once, or what makes them
inconsistent. -/
def check (mapping : List (String × String)) (rules : List (String × Rule)) (keyField : String)
    (columns_nodup : (Assoc.keys mapping).Nodup) (rules_nodup : (Assoc.keys rules).Nodup) :
    Except Inconsistency Schema :=
  if covered : ∀ column ∈ Assoc.keys mapping, Assoc.contains rules column = true then
    if fields_nodup : (Assoc.values mapping).Nodup then
      if key_mapped : keyField ∈ Assoc.values mapping then
        .ok ⟨mapping, rules, keyField, columns_nodup, rules_nodup, covered, fields_nodup,
          key_mapped⟩
      else .error (.keyNotMapped keyField)
    else .error (.repeatedFields (repeatedFields mapping))
  else .error (.columnsWithoutRule (columnsWithoutRule mapping rules))

/-- The schema of a mapping, rules and a key field, or what makes them inconsistent. For a column
that is named again the last entry counts. -/
def build (mapping : List (String × String)) (rules : List (String × Rule)) (keyField : String) :
    Except Inconsistency Schema :=
  check (Assoc.ofPairs mapping) (Assoc.ofPairs rules) keyField (Assoc.nodup_keys_ofPairs _)
    (Assoc.nodup_keys_ofPairs _)

/-- The rule of a mapped column. -/
def rule (schema : Schema) (column : String) (mapped : column ∈ Assoc.keys schema.mapping) : Rule :=
  (Assoc.get? schema.rules column).get (schema.covered column mapped)

/-- The schema of sheets that no configured schema covers. -/
def builtin : Schema where
  mapping := [("Name", "name"), ("Amount", "amount"), ("Date", "date"), ("Verified", "verified")]
  rules :=
    [("Name", { kind := .text, required := true }),
      ("Amount", { kind := .number (some 0.01), required := true }),
      ("Date", { kind := .date true, required := true }),
      ("Verified", { kind := .text, allowed := some ["Yes", "No"] })]
  keyField := "name"
  columns_nodup := by decide
  rules_nodup := by decide
  covered := by decide
  fields_nodup := by decide
  key_mapped := by decide

end Schema

end SheetIntake
