import Mathlib.Data.List.Duplicate
import Mathlib.Data.List.Sort
import Mathlib.Data.String.Basic
import SheetIntake.Proofs.Assoc
import SheetIntake.Schema.Basic

/-!
# Consistent schemas

A schema is built exactly from a mapping, rules and a key field that fit together. `IsConsistent`
says when they do, and `IsNamedBy` what is named when they do not: the first of the three conditions
that fails, with everything that breaks it and nothing else (`build_accepts_or_names`). A mapper may
therefore rely on the conditions without looking at them again.
-/

namespace SheetIntake

namespace Assoc

variable {κ α : Type} [DecidableEq α]

/-- A value is there more than once exactly when it is there under two keys. -/
theorem one_lt_count_values_iff {entries : List (κ × α)} (once : (keys entries).Nodup) {value : α} :
    1 < (values entries).count value ↔
      ∃ first second, first ≠ second ∧ (first, value) ∈ entries ∧ (second, value) ∈ entries := by
  induction entries with
  | nil => simp [values]
  | cons entry rest inductionHypothesis =>
    obtain ⟨key, held⟩ := entry
    obtain ⟨new, restOnce⟩ := List.nodup_cons.mp once
    have other : ∀ {second}, (second, value) ∈ rest → key ≠ second := by
      rintro second present rfl
      exact new (List.mem_map.mpr ⟨_, present, rfl⟩)
    have step : (values ((key, held) :: rest)).count value =
        (values rest).count value + if held = value then 1 else 0 := by
      rw [values, List.map_cons, List.count_cons]
      simp [values]
    rw [step]
    split
    · next same =>
      have again : 1 < (values rest).count value + 1 ↔ ∃ second, (second, value) ∈ rest := by
        rw [Nat.lt_add_left_iff_pos, List.count_pos_iff, values, List.mem_map]
        simp
      rw [again, same]
      constructor
      · rintro ⟨second, present⟩
        exact ⟨key, second, other present, List.mem_cons_self, List.mem_cons_of_mem _ present⟩
      · rintro ⟨first, second, differ, inFirst, inSecond⟩
        rcases List.mem_cons.mp inFirst with here | later
        · rcases List.mem_cons.mp inSecond with alsoHere | secondLater
          · cases here
            cases alsoHere
            exact absurd rfl differ
          · exact ⟨second, secondLater⟩
        · exact ⟨first, later⟩
    · next differs =>
      have notHere : ∀ {column}, (column, value) ∈ (key, held) :: rest ↔
          (column, value) ∈ rest := by
        intro column
        rw [List.mem_cons, or_iff_right]
        rintro ⟨⟩
        exact differs rfl
      simp only [Nat.add_zero, inductionHypothesis restOnce, notHere]

end Assoc

namespace Schema

variable {mapping : List (String × String)} {rules : List (String × Rule)} {keyField : String}

/-- A mapping, rules and a key field fit together. -/
structure IsConsistent (mapping : List (String × String)) (rules : List (String × Rule))
    (keyField : String) : Prop where
  ruled : ∀ column ∈ Assoc.keys mapping, column ∈ Assoc.keys rules
  once : (Assoc.values mapping).Nodup
  keyed : keyField ∈ Assoc.values mapping

/-- What is named of a mapping, rules and a key field that do not fit together: all mapped columns
without a rule, in mapping order; or else all fields to which two columns map, in ascending order;
or else the key field. -/
inductive IsNamedBy (mapping : List (String × String)) (rules : List (String × Rule))
    (keyField : String) : Inconsistency → Prop
  | columnsWithoutRule {columns : List String} (some : columns ≠ [])
    (ordered : columns.Sublist (Assoc.keys mapping))
    (each : ∀ column, column ∈ columns ↔
      column ∈ Assoc.keys mapping ∧ column ∉ Assoc.keys rules) :
    IsNamedBy mapping rules keyField (.columnsWithoutRule columns)
  | repeatedFields {fields : List String}
    (ruled : ∀ column ∈ Assoc.keys mapping, column ∈ Assoc.keys rules) (some : fields ≠ [])
    (ascending : fields.Pairwise fun earlier later => earlier < later)
    (each : ∀ field, field ∈ fields ↔
      ∃ first second, first ≠ second ∧ (first, field) ∈ mapping ∧ (second, field) ∈ mapping) :
    IsNamedBy mapping rules keyField (.repeatedFields fields)
  | keyNotMapped (ruled : ∀ column ∈ Assoc.keys mapping, column ∈ Assoc.keys rules)
    (once : (Assoc.values mapping).Nodup) (unmapped : keyField ∉ Assoc.values mapping) :
    IsNamedBy mapping rules keyField (.keyNotMapped keyField)

/-- A part of a list that keeps the order and is known by its members is a filter of the list. -/
theorem eq_filter_of_sublist {names part : List String} {keep : String → Bool}
    (once : names.Nodup) (ordered : part.Sublist names)
    (each : ∀ name, name ∈ part ↔ name ∈ names ∧ keep name = true) : part = names.filter keep := by
  have kept : part.filter keep = part :=
    List.filter_eq_self.mpr fun name present => ((each name).mp present).2
  have inFilter : part.Sublist (names.filter keep) := kept ▸ ordered.filter keep
  have same : part.Perm (names.filter keep) := by
    rw [List.perm_ext_iff_of_nodup (once.sublist ordered) (once.filter keep)]
    intro name
    rw [each, List.mem_filter]
  exact inFilter.eq_of_length same.length_eq

theorem mem_columnsWithoutRule {column : String} :
    column ∈ columnsWithoutRule mapping rules ↔
      column ∈ Assoc.keys mapping ∧ column ∉ Assoc.keys rules := by
  rw [columnsWithoutRule, List.mem_filter, Bool.not_eq_true', ← Bool.not_eq_true, Assoc.contains,
    Assoc.isSome_get?_iff]

/-- No mapped column is without a rule exactly when all are covered. -/
theorem columnsWithoutRule_eq_nil_iff :
    columnsWithoutRule mapping rules = [] ↔
      ∀ column ∈ Assoc.keys mapping, column ∈ Assoc.keys rules := by
  simp only [List.eq_nil_iff_forall_not_mem, mem_columnsWithoutRule, not_and, not_not]

theorem mem_repeatedFields {field : String} :
    field ∈ repeatedFields mapping ↔ 1 < (Assoc.values mapping).count field := by
  rw [repeatedFields, List.mem_mergeSort, Assoc.distinct_eq_eraseDups, List.mem_eraseDups,
    List.mem_filter, decide_eq_true_eq, and_iff_right_of_imp]
  intro several
  exact List.count_pos_iff.mp (Nat.zero_lt_of_lt several)

/-- No field is repeated exactly when the fields are distinct. -/
theorem repeatedFields_eq_nil_iff :
    repeatedFields mapping = [] ↔ (Assoc.values mapping).Nodup := by
  have several : ∀ field, 1 < (Assoc.values mapping).count field ↔
      List.Duplicate field (Assoc.values mapping) := fun _ =>
    List.duplicate_iff_two_le_count.symm
  rw [← not_iff_not, ← List.exists_duplicate_iff_not_nodup, List.eq_nil_iff_forall_not_mem]
  simp only [mem_repeatedFields, several, not_forall, not_not]

/-- Repeated fields ascend and so are listed once. -/
theorem pairwise_repeatedFields (mapping : List (String × String)) :
    (repeatedFields mapping).Pairwise fun earlier later => earlier < later := by
  have sorted : (repeatedFields mapping).Pairwise fun left right =>
      decide (left ≤ right) = true := by
    apply List.pairwise_mergeSort
    · intro left middle right first second
      simp only [decide_eq_true_eq] at first second ⊢
      exact le_trans first second
    · intro left right
      simp only [Bool.or_eq_true, decide_eq_true_eq]
      exact le_total left right
  have once : (repeatedFields mapping).Nodup :=
    (List.mergeSort_perm _ _).nodup_iff.mpr (Assoc.nodup_distinct _)
  refine (sorted.and once).imp fun {left right} ⟨notAfter, differ⟩ => ?_
  exact lt_of_le_of_ne (of_decide_eq_true notAfter) differ

/-- Everything that building a schema can do. -/
theorem build_cases (mapping : List (String × String)) (rules : List (String × Rule))
    (keyField : String) :
    (∃ schema, build mapping rules keyField = .ok schema ∧
      schema.mapping = Assoc.ofPairs mapping ∧ schema.rules = Assoc.ofPairs rules ∧
      schema.keyField = keyField) ∨
      ∃ why, build mapping rules keyField = .error why ∧
        IsNamedBy (Assoc.ofPairs mapping) (Assoc.ofPairs rules) keyField why := by
  have columnsOnce := Assoc.nodup_keys_ofPairs mapping
  have covering : (∀ column ∈ Assoc.keys (Assoc.ofPairs mapping),
      Assoc.contains (Assoc.ofPairs rules) column = true) ↔
        ∀ column ∈ Assoc.keys (Assoc.ofPairs mapping),
          column ∈ Assoc.keys (Assoc.ofPairs rules) := by
    simp only [Assoc.contains, Assoc.isSome_get?_iff]
  unfold build check
  split
  · next covered =>
    have ruled := covering.mp covered
    split
    · next once =>
      split
      · exact .inl ⟨_, rfl, rfl, rfl, rfl⟩
      · next unmapped => exact .inr ⟨_, rfl, .keyNotMapped ruled once unmapped⟩
    · next repeated =>
      refine .inr ⟨_, rfl, .repeatedFields ruled (mt repeatedFields_eq_nil_iff.mp repeated)
        (pairwise_repeatedFields _) fun field => ?_⟩
      rw [mem_repeatedFields, Assoc.one_lt_count_values_iff columnsOnce]
  · next uncovered =>
    refine .inr ⟨_, rfl, .columnsWithoutRule ?_ List.filter_sublist fun column =>
      mem_columnsWithoutRule⟩
    rwa [Ne, columnsWithoutRule_eq_nil_iff, ← covering]

/-- Where a column without a rule is named, not all mapped columns have one. -/
theorem not_ruled_of_named {columns : List String} (some : columns ≠ [])
    (each : ∀ column, column ∈ columns ↔
      column ∈ Assoc.keys mapping ∧ column ∉ Assoc.keys rules) :
    ¬ ∀ column ∈ Assoc.keys mapping, column ∈ Assoc.keys rules := by
  intro ruled
  obtain ⟨column, present⟩ := List.exists_mem_of_ne_nil columns some
  obtain ⟨isMapped, unruled⟩ := (each column).mp present
  exact unruled (ruled column isMapped)

/-- Where a repeated field is named, the fields are not distinct. -/
theorem not_once_of_named {fields : List String} (some : fields ≠ [])
    (each : ∀ field, field ∈ fields ↔
      ∃ first second, first ≠ second ∧ (first, field) ∈ mapping ∧ (second, field) ∈ mapping) :
    ¬ (Assoc.values mapping).Nodup := by
  intro once
  obtain ⟨field, present⟩ := List.exists_mem_of_ne_nil fields some
  obtain ⟨first, second, differ, inFirst, inSecond⟩ := (each field).mp present
  exact differ (Assoc.key_unique once inFirst inSecond)

/-- What fits together is not named. -/
theorem IsNamedBy.not_isConsistent {why : Inconsistency}
    (named : IsNamedBy mapping rules keyField why) : ¬ IsConsistent mapping rules keyField := by
  intro consistent
  cases named with
  | columnsWithoutRule some _ each => exact not_ruled_of_named some each consistent.ruled
  | repeatedFields _ some _ each => exact not_once_of_named some each consistent.once
  | keyNotMapped _ _ unmapped => exact unmapped consistent.keyed

/-- Columns that are named are those without a rule, one for one. -/
theorem eq_columnsWithoutRule (columnsOnce : (Assoc.keys mapping).Nodup) {columns : List String}
    (ordered : columns.Sublist (Assoc.keys mapping))
    (each : ∀ column, column ∈ columns ↔
      column ∈ Assoc.keys mapping ∧ column ∉ Assoc.keys rules) :
    columns = columnsWithoutRule mapping rules := by
  apply eq_filter_of_sublist columnsOnce ordered
  intro column
  rw [each, ← mem_columnsWithoutRule, columnsWithoutRule, List.mem_filter]

/-- What does not fit together is named in one way only: a condition that fails is named only where
those before it hold. -/
theorem IsNamedBy.unique (columnsOnce : (Assoc.keys mapping).Nodup) {why other : Inconsistency}
    (named : IsNamedBy mapping rules keyField why)
    (alsoNamed : IsNamedBy mapping rules keyField other) : why = other := by
  cases named with
  | columnsWithoutRule some ordered each =>
    cases alsoNamed with
    | columnsWithoutRule _ otherOrdered otherEach =>
      rw [eq_columnsWithoutRule columnsOnce ordered each,
        eq_columnsWithoutRule columnsOnce otherOrdered otherEach]
    | repeatedFields ruled => exact absurd ruled (not_ruled_of_named some each)
    | keyNotMapped ruled => exact absurd ruled (not_ruled_of_named some each)
  | repeatedFields ruled some ascending each =>
    cases alsoNamed with
    | columnsWithoutRule otherSome _ otherEach =>
      exact absurd ruled (not_ruled_of_named otherSome otherEach)
    | repeatedFields _ _ otherAscending otherEach =>
      have same := ascending.eq_of_mem_iff otherAscending fun field => by rw [each, otherEach]
      rw [same]
    | keyNotMapped _ once => exact absurd once (not_once_of_named some each)
  | keyNotMapped ruled once =>
    cases alsoNamed with
    | columnsWithoutRule otherSome _ otherEach =>
      exact absurd ruled (not_ruled_of_named otherSome otherEach)
    | repeatedFields _ otherSome _ otherEach =>
      exact absurd once (not_once_of_named otherSome otherEach)
    | keyNotMapped => rfl

/-- The parts of a schema fit together. -/
theorem isConsistent (schema : Schema) :
    IsConsistent schema.mapping schema.rules schema.keyField where
  ruled column present := (Assoc.isSome_get?_iff _ _).mp (schema.covered column present)
  once := schema.fields_nodup
  keyed := schema.key_mapped

/-- Schemas with the same parts are the same. -/
theorem eq_of_parts {schema other : Schema} (mapping : schema.mapping = other.mapping)
    (rules : schema.rules = other.rules) (keyField : schema.keyField = other.keyField) :
    schema = other := by
  cases schema
  cases other
  cases mapping
  cases rules
  cases keyField
  rfl

/-- A schema is built from a mapping, rules and a key field exactly when they fit together, and then
has them as its parts; otherwise everything that breaks the first condition that fails is named, in
order and nothing twice, and nothing else. Of a column that is given twice the last entry counts. -/
theorem build_accepts_or_names (mapping : List (String × String)) (rules : List (String × Rule))
    (keyField : String) :
    let columns := Assoc.ofPairs mapping
    let ruled := Assoc.ofPairs rules
    ((∃ schema, build mapping rules keyField = .ok schema) ↔
        IsConsistent columns ruled keyField) ∧
      (∀ schema, build mapping rules keyField = .ok schema ↔
        schema.mapping = columns ∧ schema.rules = ruled ∧ schema.keyField = keyField) ∧
      ∀ why, build mapping rules keyField = .error why ↔ IsNamedBy columns ruled keyField why := by
  intro columns ruled
  rcases build_cases mapping rules keyField with
    ⟨schema, built, hasMapping, hasRules, hasKey⟩ | ⟨why, refused, named⟩
  · have consistent := schema.isConsistent
    rw [hasMapping, hasRules, hasKey] at consistent
    refine ⟨iff_of_true ⟨schema, built⟩ consistent, fun other => ?_, fun why => ?_⟩
    · rw [built, Except.ok.injEq]
      constructor
      · rintro rfl
        exact ⟨hasMapping, hasRules, hasKey⟩
      · rintro ⟨otherMapping, otherRules, otherKey⟩
        exact eq_of_parts (hasMapping.trans otherMapping.symm) (hasRules.trans otherRules.symm)
          (hasKey.trans otherKey.symm)
    · rw [built]
      exact iff_of_false nofun fun named => named.not_isConsistent consistent
  · have inconsistent := named.not_isConsistent
    simp only [refused]
    refine ⟨iff_of_false nofun inconsistent, fun other => iff_of_false nofun ?_, fun other => ?_⟩
    · rintro ⟨otherMapping, otherRules, otherKey⟩
      have consistent := other.isConsistent
      rw [otherMapping, otherRules, otherKey] at consistent
      exact inconsistent consistent
    · rw [Except.error.injEq]
      constructor
      · rintro rfl
        exact named
      · exact named.unique (Assoc.nodup_keys_ofPairs mapping)

end Schema

end SheetIntake
