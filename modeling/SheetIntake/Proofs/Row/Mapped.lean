import SheetIntake.Proofs.Outcome
import SheetIntake.Row.Mapping

/-!
# What a mapped row holds

A row is mapped to the fields of its schema, in mapping order. Each field is there once, because no
two columns map to one field, and holds what the rule of its column makes of the value there: the
rule is always found, because in a schema every mapped column has one.
-/

namespace SheetIntake

open Calendar

variable {site : Site} {row fields : Row} {schema : Schema}

/-- Every mapped column has a rule. -/
theorem Schema.exists_rule {column : String} (required : column ∈ schema.requiredColumns) :
    ∃ rule, Assoc.get? schema.rules column = some rule :=
  Option.isSome_iff_exists.mp (schema.covered column required)

/-- A mapped row has the fields of its schema, in their order. -/
theorem keys_mapRow (mapped : mapRow site row schema = .ok fields) :
    Assoc.keys fields = schema.fields := by
  rw [Assoc.keys, Schema.fields, Assoc.values, eq_comm, ← List.forall₂_eq_eq_eq,
    List.forall₂_map_left_iff, List.forall₂_map_right_iff]
  apply (Outcome.mapM_eq_ok_iff.mp mapped).imp
  intro entry field fieldMapped
  obtain ⟨value, _, last⟩ := Outcome.bind_eq_ok_iff.mp fieldMapped
  cases last
  rfl

/-- Each field of a mapped row holds what the rule of its column makes of the value there. -/
theorem get?_mapRow (mapped : mapRow site row schema = .ok fields) {column field : String}
    (maps : (column, field) ∈ schema.mapping) :
    ∃ rule value, Assoc.get? schema.rules column = some rule ∧
      mapValue site (some rule) (row.field column) = .ok value ∧
      Assoc.get? fields field = some value := by
  have distinct : (Assoc.keys fields).Nodup := by
    rw [keys_mapRow mapped]
    exact schema.fields_nodup
  obtain ⟨rule, found⟩ := Schema.exists_rule (List.mem_map_of_mem (f := Prod.fst) maps)
  obtain ⟨entry, present, fieldMapped⟩ := Outcome.exists_answer_of_mem mapped maps
  obtain ⟨value, valueMapped, last⟩ := Outcome.bind_eq_ok_iff.mp fieldMapped
  cases last
  rw [found] at valueMapped
  exact ⟨rule, value, found, valueMapped, (Assoc.get?_eq_some_iff_mem distinct).mpr present⟩

/-- The mapping of a row depends on what it holds in the mapped columns. -/
theorem mapRow_congr {other : Row}
    (agree : ∀ column ∈ schema.requiredColumns, row.field column = other.field column) :
    mapRow site row schema = mapRow site other schema := by
  apply Outcome.mapM_congr
  intro entry present
  dsimp only
  rw [agree entry.1 (List.mem_map_of_mem present)]

end SheetIntake
