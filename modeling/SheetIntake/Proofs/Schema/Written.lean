import SheetIntake.Proofs.Assoc
import SheetIntake.Proofs.Checked
import SheetIntake.Proofs.Json
import SheetIntake.Schema.Reading

/-!
# What a schema file says

A schema that is read from a file says what the file says: `Rule.Written` and `Schema.Written`
relate the values of a file to the rules and the schemas that they stand for. A value with an option
that is not known stands for none. Since the value of a file names nothing twice, the mapping and
the rules of a schema are those of the file, in their order.
-/

namespace SheetIntake

open Checked

/-- The options that a rule of a kind may have. -/
def RuleKind.options : RuleKind → List String
  | text => ["required", "allowed_values", "kind"]
  | number _ => ["required", "allowed_values", "kind", "min"]
  | date _ => ["required", "allowed_values", "kind", "current_month"]

/-- A value of a file stands for a rule: it is read as the rule, it names the kind of the rule, and
it has no options but those of that kind. -/
inductive Rule.Written : Value → Rule → Prop
  | intro {fields : Row} {rule : Rule} (read : Rule.read (.record fields) = .ok rule)
    (kind : Assoc.get? fields "kind" = some (.text rule.kind.name))
    (known : ∀ option ∈ Assoc.keys fields, option ∈ rule.kind.options) :
    Written (.record fields) rule

/-- The options that a schema may have. -/
def Schema.options : List String := ["column_mapping", "validation_rules", "key_field"]

/-- A value of a file stands for a schema: it has no options but the known ones, its mapping and its
rules are those of the schema in their order, and its key field is that of the schema. -/
inductive Schema.Written : Value → Schema → Prop
  | intro {fields rules : Row} {schema : Schema}
    (known : ∀ option ∈ Assoc.keys fields, option ∈ Schema.options)
    (mapping : Assoc.get? fields "column_mapping" =
      some (.record (schema.mapping.map fun entry => (entry.1, .text entry.2))))
    (ruled : Assoc.get? fields "validation_rules" = some (.record rules))
    (each : List.Forall₂ (fun entry named => entry.1 = named.1 ∧ Rule.Written entry.2 named.2)
      rules schema.rules)
    (key : (Assoc.get? fields "key_field").getD (.text "name") = .text schema.keyField) :
    Written (.record fields) schema

/-- A rule whose parts are read is of their kind, and no other options are there. -/
theorem kind_of_readRuleParts {α : Type} {fields : Row} {others : List String}
    {condition : Checked α} {kind : α → RuleKind} {rule : Rule}
    (read : readRuleParts fields others condition kind = .ok rule) :
    (∃ value, rule.kind = kind value) ∧ ∀ option ∈ Assoc.keys fields,
      option ∈ ["required", "allowed_values", "kind"] ++ others := by
  obtain ⟨⟨parts, nothing⟩, passed, rfl⟩ := Outcome.map_eq_ok_iff.mp read
  obtain ⟨_, noOthers⟩ := both_eq_ok_iff.mp passed
  exact ⟨⟨parts.2, rfl⟩, readNoOthers_eq_ok_iff.mp noOthers⟩

/-- A rule whose parts are read as those of the kind that its tag names is written so. -/
theorem Rule.written_of_parts {α : Type} {fields : Row} {tag : String} {others : List String}
    {condition : Checked α} {kind : α → RuleKind} {rule : Rule}
    (read : Rule.read (.record fields) = .ok rule)
    (tagged : Assoc.get? fields "kind" = some (.text tag))
    (parts : readRuleParts fields others condition kind = .ok rule)
    (named : ∀ value, (kind value).name = tag)
    (options : ∀ value, (kind value).options = ["required", "allowed_values", "kind"] ++ others) :
    Rule.Written (.record fields) rule := by
  obtain ⟨⟨value, ofKind⟩, known⟩ := kind_of_readRuleParts parts
  refine .intro read ?_ ?_
  · rw [tagged, ofKind, named]
  · rw [ofKind, options]
    exact known

/-- Every rule that is read is written so. -/
theorem Rule.written_of_read {value : Value} {rule : Rule} (read : Rule.read value = .ok rule) :
    Rule.Written value rule := by
  cases value with
  | record fields =>
    have whole := read
    unfold Rule.read at read
    dsimp only at read
    split at read
    · cases read
    · next tag tagged =>
      split at read
      · next isText =>
        exact written_of_parts whole tagged (under_eq_ok_iff.mp read)
          (fun _ => isText.symm) fun _ => rfl
      · split at read
        · next isNumber =>
          exact written_of_parts whole tagged (under_eq_ok_iff.mp read)
            (fun _ => isNumber.symm) fun _ => rfl
        · split at read
          · next isDate =>
            exact written_of_parts whole tagged (under_eq_ok_iff.mp read)
              (fun _ => isDate.symm) fun _ => rfl
          · cases read
    · cases read
  | null | bool _ | int _ | float _ | text _ | moment _ | stamp _ | date _ | time _ | duration _
  | list _ => cases read

/-- A schema that is built has the mapping, the rules and the key field that it is built from. -/
theorem Schema.parts_of_build {mapping : List (String × String)} {rules : List (String × Rule)}
    {keyField : String} {schema : Schema}
    (built : Schema.build mapping rules keyField = .ok schema) :
    schema.mapping = Assoc.ofPairs mapping ∧ schema.rules = Assoc.ofPairs rules ∧
      schema.keyField = keyField := by
  unfold Schema.build Schema.check at built
  split at built
  · split at built
    · split at built
      · cases built
        exact ⟨rfl, rfl, rfl⟩
      · cases built
    · cases built
  · cases built

/-- Fields that are read as texts are those texts. -/
theorem eq_map_text {fields : Row} {texts : List (String × String)}
    (read : List.Forall₂ (fun field entry => field.1 = entry.1 ∧ readText field.2 = .ok entry.2)
      fields texts) : fields = texts.map fun entry => (entry.1, .text entry.2) := by
  rw [← List.forall₂_eq_eq_eq, List.forall₂_map_right_iff]
  apply read.imp
  rintro ⟨name, value⟩ ⟨other, text⟩ ⟨rfl, passed⟩
  rw [show value = .text text from readText_eq_ok_iff.mp passed]

/-- A schema that is read is built from its parts, each of which is read. -/
theorem Schema.parts_of_read {fields : Row} {schema : Schema}
    (read : Schema.read (.record fields) = .ok schema) :
    ∃ mapping rules, readRequired fields "column_mapping" (readEntries readText) = .ok mapping ∧
      readRequired fields "validation_rules" (readEntries Rule.read) = .ok rules ∧
      readDefault fields "key_field" "name" readText = .ok schema.keyField ∧
      (∀ option ∈ Assoc.keys fields, option ∈ Schema.options) ∧
      schema.mapping = Assoc.ofPairs mapping ∧ schema.rules = Assoc.ofPairs rules := by
  unfold Schema.read at read
  dsimp only at read
  split at read
  · next mapping rules key nothing passed =>
    obtain ⟨shape, noOthers⟩ := both_eq_ok_iff.mp passed
    obtain ⟨lists, keyRead⟩ := both_eq_ok_iff.mp shape
    obtain ⟨mappingRead, rulesRead⟩ := both_eq_ok_iff.mp lists
    split at read
    · next built =>
      cases read
      obtain ⟨sameMapping, sameRules, sameKey⟩ := Schema.parts_of_build built
      exact ⟨mapping, rules, mappingRead, rulesRead, sameKey ▸ keyRead,
        readNoOthers_eq_ok_iff.mp noOthers, sameMapping, sameRules⟩
    · cases read
  · cases read

/-- Every schema that is read is written so, if nothing is named twice. -/
theorem Schema.written_of_read {value : Value} {schema : Schema} (named : value.NamesDistinct)
    (read : Schema.read value = .ok schema) : Schema.Written value schema := by
  cases value with
  | record fields =>
    obtain ⟨mapping, rules, mappingRead, rulesRead, keyRead, known, sameMapping, sameRules⟩ :=
      Schema.parts_of_read read
    obtain ⟨_, mappingFound, mappingPassed⟩ := readRequired_eq_ok_iff.mp mappingRead
    obtain ⟨_, rulesFound, rulesPassed⟩ := readRequired_eq_ok_iff.mp rulesRead
    obtain ⟨columns, rfl, columnsRead⟩ := readEntries_eq_ok_iff.mp mappingPassed
    obtain ⟨ruled, rfl, ruledRead⟩ := readEntries_eq_ok_iff.mp rulesPassed
    have columnsOnce : (Assoc.keys mapping).Nodup :=
      Assoc.keys_eq_of_forall₂ columnsRead (fun _ _ both => both.1) ▸
        (named.of_field mappingFound).keys_nodup
    have rulesOnce : (Assoc.keys rules).Nodup :=
      Assoc.keys_eq_of_forall₂ ruledRead (fun _ _ both => both.1) ▸
        (named.of_field rulesFound).keys_nodup
    rw [Assoc.ofPairs_of_nodup columnsOnce] at sameMapping
    rw [Assoc.ofPairs_of_nodup rulesOnce] at sameRules
    refine .intro known ?_ rulesFound ?_ ?_
    · rw [mappingFound, sameMapping, eq_map_text columnsRead]
    · rw [sameRules]
      exact ruledRead.imp fun _ _ both => ⟨both.1, Rule.written_of_read both.2⟩
    · rcases readDefault_eq_ok_iff.mp keyRead with ⟨given, found, passed⟩ | ⟨missing, isDefault⟩
      · rw [found, readText_eq_ok_iff.mp passed]
        rfl
      · rw [missing, ← isDefault]
        rfl
  | null | bool _ | int _ | float _ | text _ | moment _ | stamp _ | date _ | time _ | duration _
  | list _ => cases read

/-- A value of a file has an option that is not known, as a schema or in one of its rules. -/
inductive Schema.HasUnknownOption : Value → Prop
  | ofSchema {fields : Row} {option : String} (there : option ∈ Assoc.keys fields)
    (unknown : option ∉ Schema.options) : HasUnknownOption (.record fields)
  | ofRule {fields rules ruleFields : Row} {column option : String}
    (found : Assoc.get? fields "validation_rules" = some (.record rules))
    (ruled : (column, .record ruleFields) ∈ rules) (there : option ∈ Assoc.keys ruleFields)
    (unknown : ∀ kind : RuleKind, Assoc.get? ruleFields "kind" = some (.text kind.name) →
      option ∉ kind.options) : HasUnknownOption (.record fields)

/-- A value that stands for a schema has no unknown options. -/
theorem Schema.Written.not_hasUnknownOption {value : Value} {schema : Schema}
    (written : Schema.Written value schema) : ¬ Schema.HasUnknownOption value := by
  intro unknownOption
  cases written with
  | intro known mapping ruled each key =>
    cases unknownOption with
    | ofSchema there unknown => exact unknown (known _ there)
    | ofRule found inRules there unknown =>
      rw [ruled] at found
      cases found
      obtain ⟨⟨name, rule⟩, _, _, ruleWritten⟩ := Outcome.exists_matched_of_mem each inRules
      cases ruleWritten with
      | intro read kind knownOptions => exact unknown _ kind (knownOptions _ there)

end SheetIntake
