import SheetIntake.Proofs.Row.Agreement

/-!
# Mapping what is mapped

A mapped row is a row of its own, with the fields of the schema as columns. `Schema.onFields` is the
schema of such rows: it maps each field to itself, under the rule of the column that the field comes
from. `mapRow_idempotent` says that it leaves them as they are: a number or a date that was read is
read as itself, and null, which stands for what could not be read, does not count as given.
-/

namespace SheetIntake

open Calendar

namespace Schema

variable (schema : Schema)

/-- Each field mapped to itself. -/
def fieldMapping : List (String × String) :=
  schema.fields.map fun field => (field, field)

/-- The rule of the column of each field. -/
def fieldRules : List (String × Rule) :=
  schema.mapping.attach.map fun entry =>
    (entry.1.2, schema.rule entry.1.1 (List.mem_map_of_mem entry.2))

theorem keys_fieldMapping : Assoc.keys schema.fieldMapping = schema.fields := by
  simp [fieldMapping, Assoc.keys, Function.comp_def]

theorem values_fieldMapping : Assoc.values schema.fieldMapping = schema.fields := by
  simp [fieldMapping, Assoc.values, Function.comp_def]

theorem keys_fieldRules : Assoc.keys schema.fieldRules = schema.fields := by
  have entries : schema.fields = (schema.mapping.attach.map Subtype.val).map Prod.snd := by
    rw [List.attach_map_subtype_val]
    rfl
  rw [entries, Assoc.keys, fieldRules, List.map_map, List.map_map]
  rfl

/-- The schema of mapped rows. -/
def onFields : Schema where
  mapping := schema.fieldMapping
  rules := schema.fieldRules
  keyField := schema.keyField
  columns_nodup := schema.keys_fieldMapping ▸ schema.fields_nodup
  rules_nodup := schema.keys_fieldRules ▸ schema.fields_nodup
  covered field mapped := by
    rw [keys_fieldMapping, ← keys_fieldRules] at mapped
    exact (Assoc.isSome_get?_iff _ _).mpr mapped
  fields_nodup := schema.values_fieldMapping ▸ schema.fields_nodup
  key_mapped := schema.values_fieldMapping ▸ schema.key_mapped

/-- The parts of a schema are accepted, and give the schema. -/
theorem build_parts : build schema.mapping schema.rules schema.keyField = .ok schema := by
  have mapping := Assoc.ofPairs_of_nodup schema.columns_nodup
  have rules := Assoc.ofPairs_of_nodup schema.rules_nodup
  unfold build check
  simp only [mapping, rules]
  rw [dif_pos schema.covered, dif_pos schema.fields_nodup, dif_pos schema.key_mapped]

variable {schema}

/-- A field has the rule of its column. -/
theorem get?_fieldRules {column field : String} (maps : (column, field) ∈ schema.mapping) :
    Assoc.get? schema.fieldRules field = Assoc.get? schema.rules column := by
  have required : column ∈ Assoc.keys schema.mapping := List.mem_map_of_mem (f := Prod.fst) maps
  have present : (field, schema.rule column required) ∈ schema.fieldRules :=
    List.mem_map.mpr ⟨⟨(column, field), maps⟩, List.mem_attach _ _, rfl⟩
  have own : Assoc.get? schema.fieldRules field = some (schema.rule column required) :=
    (Assoc.get?_eq_some_iff_mem schema.onFields.rules_nodup).mpr present
  rw [own]
  exact Option.some_get _

end Schema

/-- A number or date that was read is read as itself. -/
theorem RuleKind.coerce_coerce {site : Site} {kind : RuleKind} {value field : Value}
    (coerced : kind.coerce site value = .ok field) : kind.coerce site field = .ok field := by
  cases kind with
  | text => rfl
  | number least =>
    obtain ⟨found, read, rfl⟩ := Outcome.map_eq_ok_iff.mp coerced
    cases found with
    | none => rfl
    | some number =>
      have finite : Value.finite? number = some number :=
        if_pos (Value.isFinite_of_readNumber read)
      rw [numberValue, RuleKind.coerce, Value.readNumber, finite]
      rfl
  | date currentMonth =>
    obtain ⟨found, read, rfl⟩ := Outcome.map_eq_ok_iff.mp coerced
    cases found with
    | none => rfl
    | some clock => rfl

/-- What a value gives its field gives the field that again. -/
theorem mapValue_mapValue {site : Site} {rule : Option Rule} {value field : Value}
    (mapped : mapValue site rule value = .ok field) : mapValue site rule field = .ok field := by
  cases rule with
  | none => rfl
  | some rule =>
    unfold mapValue at mapped ⊢
    dsimp only at mapped ⊢
    split at mapped
    · split
      · exact RuleKind.coerce_coerce mapped
      · rfl
    · next absent =>
      obtain rfl := Except.ok.inj mapped
      exact if_neg absent

/-- Mapping is idempotent. The fields of a schema mapped to themselves, each under the rule of its
column, make an accepted schema with the same key field. To this schema a row that is mapped is
mapped already: it gives the same fields, in the same order and with the same values. -/
theorem mapRow_idempotent (site : Site) (schema : Schema) :
    Schema.build schema.fieldMapping schema.fieldRules schema.keyField = .ok schema.onFields ∧
      Assoc.keys schema.fieldRules = schema.fields ∧
      (∀ column field, (column, field) ∈ schema.mapping →
        Assoc.get? schema.fieldRules field = Assoc.get? schema.rules column) ∧
      ∀ row fields, mapRow site row schema = .ok fields →
        mapRow site fields schema.onFields = .ok fields := by
  refine ⟨schema.onFields.build_parts, schema.keys_fieldRules,
    fun _ _ => Schema.get?_fieldRules, fun row fields mapped => ?_⟩
  have distinct : (Assoc.keys fields).Nodup := by
    rw [keys_mapRow mapped]
    exact schema.fields_nodup
  have matched := Outcome.forall₂_and (fun _ present => present) (fun _ present => present)
    (Outcome.mapM_eq_ok_iff.mp mapped)
  have own : schema.onFields.mapping = schema.mapping.map fun entry => (entry.2, entry.2) := by
    simp [Schema.onFields, Schema.fieldMapping, Schema.fields, Assoc.values]
  rw [mapRow, own, Outcome.mapM_eq_ok_iff, List.forall₂_map_left_iff]
  apply matched.imp
  rintro ⟨column, field⟩ entry ⟨maps, present, fieldMapped⟩
  obtain ⟨value, valueMapped, last⟩ := Outcome.bind_eq_ok_iff.mp fieldMapped
  cases last
  have held : fields.field field = value := by
    rw [Row.field, (Assoc.get?_eq_some_iff_mem distinct).mpr present, Option.getD_some]
  have rule : Assoc.get? schema.onFields.rules field = Assoc.get? schema.rules column :=
    Schema.get?_fieldRules maps
  dsimp only
  rw [held, rule, mapValue_mapValue valueMapped]
  rfl

/-- A row with a zero that is spelled out, a rate that is no number, and a moment on a clock that is
two hours behind universal time. -/
def rowOfOffset : Row :=
  [("Item", .text " pen "), ("Count", .text " 0 "), ("Rate", .text "n/a"),
    ("Day", .text "2024-01-24T23:30:00-02:00")]

/-- What that row is mapped to. -/
def fieldsOfOffset : Row :=
  [("item", .text " pen "), ("count", .float 0.0), ("rate", .null),
    ("day", .dateTime ⟨⟨2024, 1, 25, by decide⟩, ⟨1, 30, 0, 0, by decide⟩⟩)]

/-- A site with a clock of universal time. -/
def siteOfOffset : Site := .universal dayOfCheck

theorem mapRow_of_mapped_offset :
    Schema.build countSchema.fieldMapping countSchema.fieldRules "item" =
        .ok countSchema.onFields ∧
      mapRow siteOfOffset rowOfOffset countSchema = .ok fieldsOfOffset ∧
      mapRow siteOfOffset fieldsOfOffset countSchema.onFields = .ok fieldsOfOffset := by
  have mapped : mapRow siteOfOffset rowOfOffset countSchema = .ok fieldsOfOffset := by rfl
  obtain ⟨accepted, _, _, again⟩ := mapRow_idempotent siteOfOffset countSchema
  exact ⟨accepted, mapped, again rowOfOffset fieldsOfOffset mapped⟩

end SheetIntake
