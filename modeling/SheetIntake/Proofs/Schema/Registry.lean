import SheetIntake.Proofs.Row.Mapped
import SheetIntake.Proofs.Row.Readable
import SheetIntake.Proofs.Schema.Written
import SheetIntake.Schema.Registry

/-!
# Registries of schema files

A registry that is loaded from a file does what the file says. `Registry.Follows` relates it to the
entries of the file: the schema of a sheet is the one that the file has under the name of the sheet,
or else the file's default, or else the built-in one. Whatever schema it gives can be used on every
row: no rule is missing, and what is mapped has the fields of the schema.
-/

namespace SheetIntake

namespace Registry

/-- The schema of a sheet is the one under its name, or else the default, or else the built-in
one. -/
theorem resolve_ofSchemas (schemas : List (String × Schema)) (sheet : String) :
    (ofSchemas schemas).resolve sheet =
      ((Assoc.get? schemas sheet).or (Assoc.get? schemas defaultSchemaName)).getD .builtin := by
  have found := Assoc.get?_filter schemas (fun name => name ≠ defaultSchemaName) sheet
  rw [resolve, ofSchemas, found]
  by_cases isDefault : sheet = defaultSchemaName
  · simp [isDefault]
  · cases Assoc.get? schemas sheet <;> simp [isDefault]

theorem names_ofSchemas (schemas : List (String × Schema)) :
    (ofSchemas schemas).names =
      defaultSchemaName :: (Assoc.keys schemas).filter fun name => name ≠ defaultSchemaName := by
  rw [names, ofSchemas, Assoc.keys, Assoc.keys, List.filter_map]
  rfl

/-- A registry has the schemas that the entries of a file stand for. -/
structure Follows (registry : Registry) (entries : Row) : Prop where
  named : ∀ {sheet value}, Assoc.get? entries sheet = some value →
    Schema.Written value (registry.resolve sheet)
  default : ∀ {sheet value}, Assoc.get? entries sheet = none →
    Assoc.get? entries defaultSchemaName = some value →
    Schema.Written value (registry.resolve sheet)
  builtin : ∀ {sheet}, Assoc.get? entries sheet = none →
    Assoc.get? entries defaultSchemaName = none → registry.resolve sheet = .builtin
  names : registry.names =
    defaultSchemaName :: (Assoc.keys entries).filter fun name => name ≠ defaultSchemaName
  names_nodup : registry.names.Nodup

/-- The registry of schemas follows the entries that the schemas are read from. -/
theorem follows_ofSchemas {entries : Row} {schemas : List (String × Schema)}
    (once : (Value.record entries).NamesDistinct)
    (read : List.Forall₂ (fun entry schema => entry.1 = schema.1 ∧
      Schema.read entry.2 = .ok schema.2) entries schemas) :
    (ofSchemas schemas).Follows entries := by
  have sameNames := Assoc.keys_eq_of_forall₂ read fun _ _ both => both.1
  have found := Assoc.get?_of_forall₂ read fun _ _ both => both.1
  have allNames := names_ofSchemas schemas
  rw [← sameNames] at allNames
  constructor
  · intro sheet value present
    rcases found sheet with ⟨absent, _⟩ | ⟨given, schema, here, schemaHere, _, schemaRead⟩
    · rw [present] at absent
      cases absent
    · rw [present] at here
      cases here
      rw [resolve_ofSchemas, schemaHere]
      exact Schema.written_of_read (once.of_field present) schemaRead
  · intro sheet value absent present
    rcases found sheet with ⟨_, noSchema⟩ | ⟨given, schema, here, _⟩
    · rcases found defaultSchemaName with
        ⟨missing, _⟩ | ⟨given, schema, here, schemaHere, _, schemaRead⟩
      · rw [present] at missing
        cases missing
      · rw [present] at here
        cases here
        rw [resolve_ofSchemas, noSchema, schemaHere]
        exact Schema.written_of_read (once.of_field present) schemaRead
    · rw [absent] at here
      cases here
  · intro sheet absent noDefault
    have noSchema : ∀ name, Assoc.get? entries name = none → Assoc.get? schemas name = none := by
      intro name missing
      rw [Assoc.get?_eq_none_iff, ← sameNames]
      exact (Assoc.get?_eq_none_iff entries name).mp missing
    rw [resolve_ofSchemas, noSchema sheet absent, noSchema defaultSchemaName noDefault]
    rfl
  · exact allNames
  · rw [allNames, List.nodup_cons]
    exact ⟨by simp, once.keys_nodup.filter _⟩

/-- A registry that is loaded has the schemas that are read from the entries of a text. -/
theorem exists_of_load {nesting : Nat} {content : ByteArray} {registry : Registry}
    (loaded : load nesting (.file content) = .ok registry) :
    ∃ text entries schemas, String.fromUTF8? content = some text ∧
      Json.parse nesting text = .ok (.record entries) ∧
      List.Forall₂ (fun entry schema => entry.1 = schema.1 ∧ Schema.read entry.2 = .ok schema.2)
        entries schemas ∧
      registry = ofSchemas schemas := by
  unfold load at loaded
  dsimp only at loaded
  split at loaded
  · cases loaded
  · next text decoded =>
    unfold ofText at loaded
    split at loaded
    · cases loaded
    · cases loaded
    · next value parsed =>
      split at loaded
      · next schemas read =>
        cases loaded
        obtain ⟨entries, rfl, eachRead⟩ := Checked.readEntries_eq_ok_iff.mp read
        exact ⟨text, entries, schemas, decoded, parsed, eachRead, rfl⟩
      · cases loaded

end Registry

/-- What it takes to use a schema on any row. Every mapped column has a rule, no field is there
twice, and the key field is there. So a mapped row has these fields in mapping order, each with what
the rule of its column makes of the value there; and a row is mapped unless one of its values cannot
be read. -/
structure Schema.IsUsable (schema : Schema) : Prop where
  ruled : ∀ column ∈ schema.requiredColumns, ∃ rule, Assoc.get? schema.rules column = some rule
  distinct : schema.fields.Nodup
  keyed : schema.keyField ∈ schema.fields
  keys : ∀ {site row fields}, mapRow site row schema = .ok fields →
    Assoc.keys fields = schema.fields
  values : ∀ {site row fields}, mapRow site row schema = .ok fields →
    ∀ {column field}, (column, field) ∈ schema.mapping →
      ∃ rule value, Assoc.get? schema.rules column = some rule ∧
        mapValue site (some rule) (row.field column) = .ok value ∧
        Assoc.get? fields field = some value
  failed : ∀ {site row failure}, mapRow site row schema = .error failure →
    ∃ column rule, Assoc.get? schema.rules column = some rule ∧
      rule.kind.Unreadable site (row.field column) failure

theorem Schema.isUsable (schema : Schema) : schema.IsUsable where
  ruled _ required := Schema.exists_rule required
  distinct := schema.fields_nodup
  keyed := schema.key_mapped
  keys := keys_mapRow
  values mapped _ _ maps := get?_mapRow mapped maps
  failed := exists_unreadable_of_mapRow

/-- A registry that is loaded from a file follows the entries of the file, no schema and no rule of
which has an unknown option, and every schema that it gives can be used on any row. -/
theorem loaded_registry_is_usable {nesting : Nat} {content : ByteArray} {registry : Registry}
    (loaded : Registry.load nesting (.file content) = .ok registry) :
    ∃ text entries, String.fromUTF8? content = some text ∧
      Json.parse nesting text = .ok (.record entries) ∧ (Assoc.keys entries).Nodup ∧
      (∀ entry ∈ entries, ¬ Schema.HasUnknownOption entry.2) ∧
      registry.Follows entries ∧ ∀ sheet, (registry.resolve sheet).IsUsable := by
  obtain ⟨text, entries, schemas, decoded, parsed, read, rfl⟩ := Registry.exists_of_load loaded
  have once := Json.namesDistinct_of_parse parsed
  have follows := Registry.follows_ofSchemas once read
  refine ⟨text, entries, decoded, parsed, once.keys_nodup, ?_, follows,
    fun sheet => Schema.isUsable _⟩
  intro entry present
  have found := (Assoc.get?_eq_some_iff_mem once.keys_nodup).mpr present
  exact (follows.named found).not_hasUnknownOption

/-- A schema text that names its only entry twice. -/
def repeatingText : String :=
  "\x7b\"T\": 0, \"T\": \x7b\"column_mapping\": \x7b\"A\": \"a\"\x7d, " ++
    "\"validation_rules\": \x7b\"A\": \x7b\"kind\": \"date\"\x7d\x7d, \"key_field\": \"a\"\x7d\x7d"

theorem registry_of_repeating_text_is_usable :
    ∃ registry entries, Registry.load 4 (.file repeatingText.toUTF8) = .ok registry ∧
      (Assoc.keys entries).Nodup ∧ registry.Follows entries ∧
      registry.names = ["default", "T"] ∧ ∀ sheet, (registry.resolve sheet).IsUsable := by
  have isText : String.fromUTF8? repeatingText.toUTF8 = some repeatingText :=
    dif_pos repeatingText.isValidUTF8
  have named : ((Registry.ofText 4 repeatingText).toOption.map Registry.names) =
      some ["default", "T"] := by decide +kernel
  obtain ⟨registry, answered, names⟩ := Option.map_eq_some_iff.mp named
  have loaded : Registry.load 4 (.file repeatingText.toUTF8) = .ok registry := by
    rw [Registry.load, isText]
    exact Outcome.eq_ok_of_toOption answered
  obtain ⟨_, entries, _, _, once, _, follows, usable⟩ := loaded_registry_is_usable loaded
  exact ⟨registry, entries, loaded, once, follows, names, usable⟩

end SheetIntake
