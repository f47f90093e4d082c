import SheetIntake.Proofs.Row.Mapped
import SheetIntake.Proofs.Row.Verdict

/-!
# Mapping agrees with checking

The check of a row and its mapping tell blank values from others in different ways: the check asks
whether nothing was entered, and the mapping whether the value counts as given. They differ for
zeros and for floats that are not numbers. `Rule.Meets.exists_mapValue` says that this makes no
difference for a value that meets its rule: what a field then holds is blank where the value is, and
otherwise it is what the check has read.
-/

namespace SheetIntake

open Calendar Decimal

/-- A value is a number: the float itself, or an integer that is that float exactly. -/
inductive Value.IsNumber : Value → Float → Prop
  | float (number : Float) : IsNumber (.float number) number
  | int {whole : Int} {number : Float} (nearest : ofInteger? whole = some number)
    (equal : integer? number = some whole) : IsNumber (.int whole) number

/-- What a field holds for a value that its kind accepts. -/
inductive RuleKind.Keeps (site : Site) (now : DateTime) : RuleKind → Value → Value → Prop
  /-- The text as it is. -/
  | text (content : String) : Keeps site now .text (.text content) (.text content)
  /-- The finite number that is read, which is not below the least. -/
  | number {least : Option Float} {value field : Value} {number : Float}
    (read : value.readNumber = .ok (some number)) (finite : isFinite number = true)
    (fits : ∀ limit, least = some limit → ¬ number < limit) (same : field.IsNumber number) :
    Keeps site now (.number least) value field
  /-- The date-time that is read, without an offset, in the current month if that is asked for. -/
  | date {currentMonth : Bool} {value : Value} {clock : DateTime}
    (read : value.readDate site = .ok (some clock))
    (current : currentMonth = true → clock.SharesMonth now) :
    Keeps site now (.date currentMonth) value (.dateTime clock)

section

variable {site : Site} {rule : Rule} {kind : RuleKind} {value field : Value} {now : DateTime}

/-- What is kept of a value that is not blank is not blank. -/
theorem RuleKind.Keeps.not_isBlank (keeps : kind.Keeps site now value field)
    (entered : ¬ value.IsBlank) : ¬ field.IsBlank := by
  cases keeps with
  | text content => exact entered
  | number read finite fits same =>
    cases same with
    | float number =>
      intro blank
      cases blank with
      | notANumber undefined => simp [isNotANumber_of_isFinite finite] at undefined
    | int nearest equal => exact fun blank => nomatch blank
  | date read current => exact fun blank => nomatch blank

/-- A column of texts gives its field the value as it is. -/
theorem mapValue_of_text (ofKind : rule.kind = .text) (value : Value) :
    mapValue site (some rule) value = .ok value := by
  rw [mapValue, ofKind]
  dsimp only [RuleKind.coerce]
  split
  · rfl
  · rfl

theorem Value.finite?_eq_some {held number : Float} (found : finite? held = some number) :
    held = number := by
  unfold finite? at found
  split at found
  · cases found
    rfl
  · cases found

/-- A value that holds or spells a date counts as given. -/
theorem Value.isTruthy_of_readDate {clock : DateTime} (present : value.isEmpty = false)
    (read : value.readDate site = .ok (some clock)) : value.isTruthy = true := by
  cases value with
  | moment _ | stamp _ | date _ => rfl
  | text content =>
    rw [Value.isEmpty] at present
    rw [Value.isTruthy, present]
    rfl
  | null | bool _ | int _ | float _ | time _ | duration _ | list _ | record _ => cases read

/-- A value that is read as a number but does not count as given is that number: only zeros are
left. -/
theorem Value.isNumber_of_readNumber {number : Float} (present : value.isEmpty = false)
    (zero : value.isTruthy ≠ true) (read : value.readNumber = .ok (some number)) :
    value.IsNumber number := by
  cases value with
  | int whole =>
    obtain rfl : whole = 0 := by simpa [Value.isTruthy] using zero
    have nearest : ofInteger? 0 = some 0.0 := by decide
    rw [Value.readNumber, nearest] at read
    cases read
    exact .int nearest (by decide +kernel)
  | float held =>
    obtain rfl := Value.finite?_eq_some (Except.ok.inj read)
    exact .float held
  | text content =>
    rw [Value.isEmpty] at present
    rw [Value.isTruthy, present] at zero
    cases zero rfl
  | null | bool _ | moment _ | stamp _ | date _ | time _ | duration _ | list _ | record _ =>
    cases read

/-- A blank value gives a blank field: it is taken as it is, or it is a float that is no number and
becomes null. -/
theorem mapValue_of_isBlank (rule : Rule) (blank : value.IsBlank) :
    ∃ field, mapValue site (some rule) value = .ok field ∧ field.IsBlank := by
  cases blank with
  | null => exact ⟨.null, rfl, .null⟩
  | emptyText => exact ⟨.text "", rfl, .emptyText⟩
  | @notANumber held undefined =>
    have infinite : Value.finite? held = none := by
      rw [Value.finite?, if_neg]
      intro finite
      simp [isNotANumber_of_isFinite finite] at undefined
    unfold mapValue
    dsimp only
    split
    · cases rule.kind with
      | text => exact ⟨.float held, rfl, .notANumber undefined⟩
      | number least =>
        refine ⟨.null, ?_, .null⟩
        rw [RuleKind.coerce, Value.readNumber, infinite]
        rfl
      | date currentMonth => exact ⟨.null, rfl, .null⟩
    · exact ⟨.float held, rfl, .notANumber undefined⟩

/-- A value that is accepted gives a field that keeps it. -/
theorem mapValue_of_accepts (entered : ¬ value.IsBlank)
    (accepted : rule.kind.Accepts site now value) :
    ∃ field, mapValue site (some rule) value = .ok field ∧
      rule.kind.Keeps site now value field := by
  have present := Value.isEmpty_eq_false_iff.mpr entered
  generalize ofKind : rule.kind = kind at accepted ⊢
  cases accepted with
  | text content => exact ⟨_, mapValue_of_text ofKind _, .text content⟩
  | @number least value number read finite fits =>
    by_cases truthy : value.isTruthy = true
    · refine ⟨.float number, ?_, .number read finite fits (.float number)⟩
      rw [mapValue, if_pos truthy, ofKind, RuleKind.coerce, read]
      rfl
    · refine ⟨value, ?_, .number read finite fits ?_⟩
      · rw [mapValue, if_neg truthy]
      · exact Value.isNumber_of_readNumber present truthy read
  | @date currentMonth value clock read current =>
    refine ⟨.dateTime clock, ?_, .date read current⟩
    rw [mapValue, if_pos (Value.isTruthy_of_readDate present read), ofKind, RuleKind.coerce, read]
    rfl

/-- A value that meets its rule gives a field that is blank where the value is, and keeps the value
otherwise. -/
theorem Rule.Meets.exists_mapValue (meets : rule.Meets site value now) :
    ∃ field, mapValue site (some rule) value = .ok field ∧ (field.IsBlank ↔ value.IsBlank) ∧
      (¬ value.IsBlank → rule.kind.Keeps site now value field) := by
  cases meets with
  | blank blank _ =>
    obtain ⟨field, mapped, fieldBlank⟩ := mapValue_of_isBlank rule blank
    exact ⟨field, mapped, iff_of_true fieldBlank blank, fun entered => absurd blank entered⟩
  | entered entered accepted _ =>
    obtain ⟨field, mapped, keeps⟩ := mapValue_of_accepts entered accepted
    exact ⟨field, mapped, iff_of_false (keeps.not_isBlank entered) entered, fun _ => keeps⟩

/-- A required value that meets its rule is not blank, and its field keeps it. -/
theorem Rule.Meets.keeps_of_required (meets : rule.Meets site value now)
    (required : rule.required = true) (mapped : mapValue site (some rule) value = .ok field) :
    ¬ value.IsBlank ∧ rule.kind.Keeps site now value field := by
  obtain ⟨other, otherMapped, _, keeps⟩ := meets.exists_mapValue
  obtain rfl := Except.ok.inj (mapped.symm.trans otherMapped)
  cases meets with
  | blank _ optional => simp [required] at optional
  | entered entered _ _ => exact ⟨entered, keeps entered⟩

end

/-- In a row without errors every ruled column meets its rule. -/
theorem Rule.meets_of_checkRow {site : Site} {row : Row} {schema : Schema} {number : Int}
    {now : DateTime} (clean : checkRow site row schema number now = .ok []) {column : String}
    {rule : Rule}     (ruled : Assoc.get? schema.rules column = some rule) :
    rule.Meets site (row.field column) now := by
  obtain ⟨found, has, none⟩ := checkRow_eq_ok_iff.mp clean
  exact (flatten_eq_nil_iff_meets has).mp none.symm _ (Assoc.mem_of_get? ruled)

/-- The mapping of a row agrees with its check. A row without errors is mapped to the fields of its
schema. The field of a column is blank exactly when the column is. Otherwise it holds, by the kind
of the column, the finite number that is read there, which is not below the least; the date-time
that is read there, in the current month where the rule asks for that; or the text that is there. -/
theorem mapRow_agrees_with_checkRow {site : Site} {row : Row} {schema : Schema} {number : Int}
    {now : DateTime} (clean : checkRow site row schema number now = .ok []) :
    ∃ fields, mapRow site row schema = .ok fields ∧ Assoc.keys fields = schema.fields ∧
      ∀ column field, (column, field) ∈ schema.mapping →
        ∃ rule value, Assoc.get? schema.rules column = some rule ∧
          Assoc.get? fields field = some value ∧
          (value.IsBlank ↔ (row.field column).IsBlank) ∧
          (¬ (row.field column).IsBlank → rule.kind.Keeps site now (row.field column) value) := by
  have answers : ∃ fields, mapRow site row schema = .ok fields := by
    rw [mapRow, Outcome.mapM_answers_iff]
    rintro ⟨column, field⟩ present
    obtain ⟨rule, ruled⟩ := Schema.exists_rule (List.mem_map_of_mem (f := Prod.fst) present)
    obtain ⟨value, mapped, _⟩ := (Rule.meets_of_checkRow clean ruled).exists_mapValue
    dsimp only
    rw [ruled, mapped]
    exact ⟨_, rfl⟩
  obtain ⟨fields, mapped⟩ := answers
  refine ⟨fields, mapped, keys_mapRow mapped, fun column field maps => ?_⟩
  obtain ⟨rule, value, ruled, valueMapped, held⟩ := get?_mapRow mapped maps
  obtain ⟨other, otherMapped, blank, keeps⟩ :=
    (Rule.meets_of_checkRow clean ruled).exists_mapValue
  obtain rfl := Except.ok.inj (valueMapped.symm.trans otherMapped)
  exact ⟨rule, value, ruled, held, blank, keeps⟩

/-- A schema in which a count may be zero and a rate may be missing. -/
def countSchema : Schema where
  mapping := [("Item", "item"), ("Count", "count"), ("Rate", "rate"), ("Day", "day")]
  rules :=
    [("Item", { kind := .text, required := true }),
      ("Count", { kind := .number (some 0.0), required := true }),
      ("Rate", { kind := .number none }),
      ("Day", { kind := .date true })]
  keyField := "item"
  columns_nodup := by decide
  rules_nodup := by decide
  covered := by decide
  fields_nodup := by decide
  key_mapped := by decide

/-- A row with a count of zero and a rate that is no number. -/
def rowOfZero : Row :=
  [("Item", .text " pen "), ("Count", .int 0), ("Rate", .float notANumberFloat),
    ("Day", .text "2024-01-15 08:30")]

theorem mapRow_of_zero :
    checkRow siteOfCheck rowOfZero countSchema 2 dayOfCheck = .ok [] ∧
      ∃ fields, mapRow siteOfCheck rowOfZero countSchema = .ok fields ∧
        Assoc.keys fields = countSchema.fields ∧
        ∀ column field, (column, field) ∈ countSchema.mapping →
          ∃ rule value, Assoc.get? countSchema.rules column = some rule ∧
            Assoc.get? fields field = some value ∧
            (value.IsBlank ↔ (rowOfZero.field column).IsBlank) ∧
            (¬ (rowOfZero.field column).IsBlank →
              rule.kind.Keeps siteOfCheck dayOfCheck (rowOfZero.field column) value) := by
  have clean : checkRow siteOfCheck rowOfZero countSchema 2 dayOfCheck = .ok [] := by decide
  exact ⟨clean, mapRow_agrees_with_checkRow clean⟩

end SheetIntake
