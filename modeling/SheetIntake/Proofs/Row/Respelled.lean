import SheetIntake.Proofs.Row.Agreement
import SheetIntake.Proofs.Row.Readable

/-!
# Rows that spell numbers and dates differently

A cell can hold a number or a date as such or spell it as text. The conditions of a kind depend only
on what is read, so two spellings meet them alike. The list of allowed texts does not: it is
compared with the cell itself, and only texts are on it. `checkRow_of_respelled` says that two rows
that differ in spelling have the same outcome unless the list of some column tells the two spellings
apart, and that a column has the same outcome exactly when its list does not.
-/

namespace SheetIntake

open Calendar Decimal

variable {site : Site}

namespace Decimal

open Float.Model

/-- Floats that are equal as numbers are the same, or two zeros. -/
theorem eq_or_zeros_of_compare {left right : UnpackedFloat}
    (equal : left.compare right = some .eq) :
    left = right ∨ ∃ sign other, left = .zero sign ∧ right = .zero other := by
  cases left with
  | notANumber => cases right <;> cases equal
  | infinity sign =>
    cases right with
    | infinity other => cases sign <;> cases other <;> first | exact .inl rfl | cases equal
    | notANumber | zero | finite => cases sign <;> cases equal
  | zero sign =>
    cases right with
    | zero other => exact .inr ⟨sign, other, rfl, rfl⟩
    | notANumber => cases equal
    | infinity other | finite other => cases other <;> cases equal
  | finite sign mantissa exponent positive =>
    cases right with
    | notANumber | zero => cases sign <;> cases equal
    | infinity other => cases sign <;> cases other <;> cases equal
    | finite other otherMantissa otherExponent otherPositive =>
      have parts : sign = other ∧
          (compare exponent otherExponent).then (compare mantissa otherMantissa) = .eq := by
        cases sign with
        | negative =>
          cases other with
          | negative => exact ⟨rfl, Ordering.swap_eq_eq.mp (Option.some.inj equal)⟩
          | positive => cases equal
        | positive =>
          cases other with
          | negative => cases equal
          | positive => exact ⟨rfl, Option.some.inj equal⟩
      obtain ⟨rfl, compared⟩ := parts
      obtain ⟨exponents, mantissas⟩ := Ordering.then_eq_eq.mp compared
      obtain rfl := Int.compare_eq_eq.mp exponents
      obtain rfl := Nat.compare_eq_eq.mp mantissas
      exact .inl rfl

theorem lt_iff_compare {left right : Float} :
    left < right ↔ left.toModel.unpack.compare right.toModel.unpack = some .lt := by
  have less : left < right ↔ left.toModel < right.toModel := decide_eq_true_iff
  exact less.trans beq_iff_eq

/-- Floats that are equal as numbers are below the same floats. -/
theorem lt_congr_left {left right : Float} (equal : (left == right) = true) (limit : Float) :
    left < limit ↔ right < limit := by
  rw [lt_iff_compare, lt_iff_compare]
  rcases eq_or_zeros_of_compare (beq_iff_eq.mp equal) with parts | ⟨sign, other, zero, otherZero⟩
  · rw [parts]
  · rw [zero, otherZero]
    cases limit.toModel.unpack with
    | notANumber | zero => rfl
    | infinity of | finite of => cases of <;> rfl

end Decimal

namespace Value

/-- What a number is read from is not blank. -/
theorem not_isBlank_of_readNumber {value : Value} {number : Float}
    (read : value.readNumber = .ok (some number)) : ¬ value.IsBlank := by
  intro blank
  cases blank with
  | null => cases read
  | emptyText => cases read
  | notANumber undefined =>
    have finite := isFinite_of_readNumber read
    obtain rfl := finite?_eq_some (Except.ok.inj read)
    simp [isNotANumber_of_isFinite finite] at undefined

/-- What a date is read from is not blank. -/
theorem not_isBlank_of_readDate {value : Value} {clock : DateTime}
    (read : value.readDate site = .ok (some clock)) : ¬ value.IsBlank := by
  intro blank
  cases blank with
  | null | emptyText | notANumber => cases read

end Value

/-- Two values of a column of numbers that hold or spell one number, or of a column of dates that
hold or spell one date-time. Zero is one number, with either sign. -/
inductive RuleKind.ReadsAlike (site : Site) : RuleKind → Value → Value → Prop
  | number {least : Option Float} {value other : Value} {number otherNumber : Float}
    (read : value.readNumber = .ok (some number))
    (otherRead : other.readNumber = .ok (some otherNumber))
    (equal : (number == otherNumber) = true) : ReadsAlike site (.number least) value other
  | date {currentMonth : Bool} {value other : Value} {clock : DateTime}
    (read : value.readDate site = .ok (some clock))
    (otherRead : other.readDate site = .ok (some clock)) :
    ReadsAlike site (.date currentMonth) value other

/-- Two rows that agree on every column, but for columns of numbers and of dates in which they spell
one number or one date-time. -/
def Schema.Respells (site : Site) (schema : Schema) (row other : Row) : Prop :=
  ∀ column, row.field column = other.field column ∨
    ∃ rule, Assoc.get? schema.rules column = some rule ∧
      rule.kind.ReadsAlike site (row.field column) (other.field column)

namespace RuleKind.ReadsAlike

variable {kind : RuleKind} {value other : Value}

theorem not_isBlank (alike : kind.ReadsAlike site value other) :
    ¬ value.IsBlank ∧ ¬ other.IsBlank := by
  cases alike with
  | number read otherRead equal =>
    exact ⟨Value.not_isBlank_of_readNumber read, Value.not_isBlank_of_readNumber otherRead⟩
  | date read otherRead =>
    exact ⟨Value.not_isBlank_of_readDate read, Value.not_isBlank_of_readDate otherRead⟩

/-- A kind says the same of both, without fail. -/
theorem exists_complaint? (alike : kind.ReadsAlike site value other) (now : DateTime) :
    ∃ complaint, kind.complaint? site value now = .ok complaint ∧
      kind.complaint? site other now = .ok complaint := by
  cases alike with
  | @number least _ _ number otherNumber read otherRead equal =>
    have same : numberComplaint? least (some otherNumber) =
        numberComplaint? least (some number) := by
      cases least with
      | none => rfl
      | some limit => simp only [numberComplaint?, lt_congr_left equal limit]
    refine ⟨numberComplaint? least (some number), ?_, ?_⟩
    · exact Outcome.map_eq_ok_iff.mpr ⟨_, read, rfl⟩
    · exact Outcome.map_eq_ok_iff.mpr ⟨_, otherRead, same⟩
  | @date currentMonth _ _ clock read otherRead =>
    refine ⟨dateComplaint? currentMonth now (some clock), ?_, ?_⟩
    · exact Outcome.map_eq_ok_iff.mpr ⟨_, read, rfl⟩
    · exact Outcome.map_eq_ok_iff.mpr ⟨_, otherRead, rfl⟩

/-- What is spelled differently can be read. -/
theorem not_unreadable (alike : kind.ReadsAlike site value other) {failure : Failure} :
    ¬ kind.Unreadable site value failure := by
  intro unreadable
  cases alike with
  | @number least _ _ _ _ read _ _ =>
    rw [(Value.readNumber_eq_error_iff least).mpr unreadable] at read
    cases read
  | @date currentMonth _ _ _ read _ =>
    rw [(Value.readDate_eq_error_iff currentMonth).mpr unreadable] at read
    cases read

end RuleKind.ReadsAlike

/-- A rule without a list allows every value. -/
theorem Rule.allows_of_free {rule : Rule} (free : rule.allowed = none) (value : Value) :
    rule.Allows value := by
  intro words listed
  rw [free] at listed
  cases listed

/-- Values that a rule allows alike are complained about alike. -/
theorem Rule.allowedComplaint?_congr {rule : Rule} {value other : Value}
    (same : rule.Allows value ↔ rule.Allows other) :
    allowedComplaint? rule.allowed value = allowedComplaint? rule.allowed other := by
  ext complaint
  rw [allowedComplaint?_eq_some_iff, allowedComplaint?_eq_some_iff, same]

section

variable {row other : Row} {number : Int} {now : DateTime} {column : String} {rule : Rule}

/-- A column has one error for each complaint. -/
theorem length_checkColumn {complaints : List String} {errors : List RowError}
    (complained : rule.complaints site (row.field column) now = .ok complaints)
    (checked : checkColumn site row number now column rule = .ok errors) :
    errors.length = complaints.length := by
  obtain ⟨found, finds, reported⟩ := checkColumn_eq_ok_iff.mp checked
  obtain rfl : found = complaints :=
    Except.ok.inj ((Rule.complaints_eq_ok_iff.mpr finds).symm.trans complained)
  exact reported.length_eq.symm

/-- A column with two spellings has the same errors in both rows exactly when its list allows both
or neither. Only the complaint about the list can differ, and with it the number of errors. -/
theorem checkColumn_eq_iff_of_readsAlike (positive : 1 ≤ number)
    (alike : rule.kind.ReadsAlike site (row.field column) (other.field column)) :
    checkColumn site row number now column rule = checkColumn site other number now column rule ↔
      (rule.Allows (row.field column) ↔ rule.Allows (other.field column)) := by
  obtain ⟨complaint, ofRow, ofOther⟩ := alike.exists_complaint? now
  obtain ⟨entered, otherEntered⟩ := alike.not_isBlank
  have complained := (Rule.complaints_of_entered entered).mpr ⟨complaint, ofRow, rfl⟩
  have otherComplained := (Rule.complaints_of_entered otherEntered).mpr ⟨complaint, ofOther, rfl⟩
  constructor
  · intro same
    obtain ⟨errors, checked⟩ : ∃ errors, checkColumn site row number now column rule = .ok errors :=
      Outcome.exists_ok_iff.mpr fun _ failed =>
        alike.not_unreadable ((checkColumn_eq_error_iff positive).mp failed)
    have sizes := (length_checkColumn complained checked).symm.trans
      (length_checkColumn otherComplained (same ▸ checked))
    rw [← Rule.allowedComplaint?_eq_none_iff, ← Rule.allowedComplaint?_eq_none_iff]
    rw [List.length_append, List.length_append, Nat.add_left_cancel_iff] at sizes
    rw [← Option.toList_eq_nil_iff, ← Option.toList_eq_nil_iff, ← List.length_eq_zero_iff, sizes,
      List.length_eq_zero_iff]
  · intro same
    unfold checkColumn
    rw [complained, otherComplained, Rule.allowedComplaint?_congr same]

variable {schema : Schema}

/-- A ruled column has the same errors in both rows exactly when its list allows both cells or
neither. -/
theorem Schema.Respells.checkColumn_eq_iff (respells : schema.Respells site row other)
    (positive : 1 ≤ number) (ruled : Assoc.get? schema.rules column = some rule) :
    checkColumn site row number now column rule = checkColumn site other number now column rule ↔
      (rule.Allows (row.field column) ↔ rule.Allows (other.field column)) := by
  rcases respells column with same | ⟨known, found, alike⟩
  · exact iff_of_true (checkColumn_congr same) (by rw [same])
  · obtain rfl := Option.some.inj (found.symm.trans ruled)
    exact checkColumn_eq_iff_of_readsAlike positive alike

/-- A row can be checked exactly when what it shares with the other can be read. -/
theorem Schema.Respells.answers_iff (respells : schema.Respells site row other)
    (positive : 1 ≤ number) :
    (∃ errors, checkRow site row schema number now = .ok errors) ↔
      ∀ column, row.field column = other.field column → row.IsReadable site schema [column] := by
  rw [checkRow_answers_iff positive]
  constructor
  · intro readable column _ present among
    obtain rfl := List.mem_singleton.mp among
    intro rule failure ruled
    exact readable present (List.mem_map_of_mem (Assoc.mem_of_get? ruled)) rule failure ruled
  · intro readable column _ rule failure ruled unreadable
    rcases respells column with same | ⟨known, found, alike⟩
    · exact readable column same column (List.mem_singleton_self column) rule failure ruled
        unreadable
    · obtain rfl := Option.some.inj (found.symm.trans ruled)
      exact alike.not_unreadable unreadable

end

/-- The check of a row goes by the numbers and dates that are read, but for the lists of allowed
texts. Take two rows that agree on every column, except that in columns of numbers and of dates they
may spell one number or one date-time differently. A row is then checked exactly when all can be
read that the two share. A column has the same errors in both rows exactly when its list allows both
cells or neither. So the rows have the same outcome when this is so for every column. -/
theorem checkRow_of_respelled {row other : Row} {schema : Schema}
    (respells : schema.Respells site row other) {number : Int} (positive : 1 ≤ number)
    (now : DateTime) :
    ((∃ errors, checkRow site row schema number now = .ok errors) ↔
        ∀ column, row.field column = other.field column → row.IsReadable site schema [column]) ∧
      (∀ column rule, Assoc.get? schema.rules column = some rule →
        (checkColumn site row number now column rule =
            checkColumn site other number now column rule ↔
          (rule.Allows (row.field column) ↔ rule.Allows (other.field column)))) ∧
      ((∀ column rule, Assoc.get? schema.rules column = some rule →
          (rule.Allows (row.field column) ↔ rule.Allows (other.field column))) →
        checkRow site row schema number now = checkRow site other schema number now) := by
  refine ⟨respells.answers_iff positive, fun column rule => respells.checkColumn_eq_iff positive,
    fun allowed => checkRow_congr fun entry present => ?_⟩
  have ruled : Assoc.get? schema.rules entry.1 = some entry.2 :=
    (Assoc.get?_eq_some_iff_mem schema.rules_nodup).mpr present
  exact (respells.checkColumn_eq_iff positive ruled).mpr (allowed entry.1 entry.2 ruled)

/-- The number one and its numeral are one number. -/
theorem RuleKind.readsAlike_one (least : Option Float) :
    (RuleKind.number least).ReadsAlike site (.int 1) (.text "1") := by
  have read : (Value.int 1).readNumber = .ok (some 1.0) := by decide
  have spelled : (Value.text "1").readNumber = .ok (some 1.0) := by decide
  exact .number read spelled (by decide +kernel)

/-- A row whose amount is a number and whose date is a date. -/
def rowOfNumbers : Row :=
  [("Name", .text "Ann"), ("Amount", .int 1), ("Date", .date ⟨2024, 1, 17, by decide⟩)]

/-- That row with the amount and the date as texts. -/
def rowOfNumerals : Row :=
  [("Name", .text "Ann"), ("Amount", .text "1"), ("Date", .text "2024-01-17")]

theorem checkRow_of_numerals :
    Schema.builtin.Respells siteOfCheck rowOfNumbers rowOfNumerals ∧ (1 : Int) ≤ 2 ∧
      (∀ column rule, Assoc.get? Schema.builtin.rules column = some rule →
        (rule.Allows (rowOfNumbers.field column) ↔ rule.Allows (rowOfNumerals.field column))) ∧
      checkRow siteOfCheck rowOfNumbers .builtin 2 dayOfCheck =
        checkRow siteOfCheck rowOfNumerals .builtin 2 dayOfCheck := by
  have date : (RuleKind.date true).ReadsAlike siteOfCheck (.date ⟨2024, 1, 17, by decide⟩)
      (.text "2024-01-17") := by
    have spelled : (Value.text "2024-01-17").readDate siteOfCheck =
        .ok (some (.atMidnight ⟨2024, 1, 17, by decide⟩)) := by decide
    exact .date rfl spelled
  have columns : ∀ column, column = "Amount" ∨ column = "Date" ∨
      rowOfNumbers.field column = rowOfNumerals.field column := by
    intro column
    by_cases amount : column = "Amount"
    · exact .inl amount
    · by_cases day : column = "Date"
      · exact .inr (.inl day)
      · right
        right
        simp only [Row.field, rowOfNumbers, rowOfNumerals, Assoc.get?_cons,
          if_neg (Ne.symm amount), if_neg (Ne.symm day), Assoc.get?_nil]
  have respells : Schema.builtin.Respells siteOfCheck rowOfNumbers rowOfNumerals := by
    intro column
    rcases columns column with rfl | rfl | same
    · exact .inr ⟨_, rfl, RuleKind.readsAlike_one (some 0.01)⟩
    · exact .inr ⟨_, rfl, date⟩
    · exact .inl same
  have allowed : ∀ column rule, Assoc.get? Schema.builtin.rules column = some rule →
      (rule.Allows (rowOfNumbers.field column) ↔ rule.Allows (rowOfNumerals.field column)) := by
    intro column rule ruled
    rcases columns column with rfl | rfl | same
    · cases ruled
      exact iff_of_true (Rule.allows_of_free rfl _) (Rule.allows_of_free rfl _)
    · cases ruled
      exact iff_of_true (Rule.allows_of_free rfl _) (Rule.allows_of_free rfl _)
    · rw [same]
  exact ⟨respells, by decide, allowed,
    (checkRow_of_respelled respells (by decide) dayOfCheck).2.2 allowed⟩

/-- A schema with numbers of which only one is allowed. -/
def codeSchema : Schema where
  mapping := [("Name", "name"), ("Code", "code")]
  rules := [("Name", { kind := .text }), ("Code", { kind := .number none, allowed := some ["1"] })]
  keyField := "name"
  columns_nodup := by decide
  rules_nodup := by decide
  covered := by decide
  fields_nodup := by decide
  key_mapped := by decide

/-- No number is on a list of allowed texts, though its numeral is. -/
theorem checkRow_of_listed_numeral :
    codeSchema.Respells siteOfCheck [("Code", .int 1)] [("Code", .text "1")] ∧
      checkRow siteOfCheck [("Code", .int 1)] codeSchema 2 dayOfCheck =
        .ok [⟨2, "Row 2: \"Code\" must be one of 1.", by decide⟩] ∧
      checkRow siteOfCheck [("Code", .text "1")] codeSchema 2 dayOfCheck = .ok [] := by
  refine ⟨fun column => ?_, by decide, by decide⟩
  by_cases code : column = "Code"
  · subst code
    exact .inr ⟨_, rfl, RuleKind.readsAlike_one none⟩
  · left
    simp only [Row.field, Assoc.get?_cons, if_neg (Ne.symm code), Assoc.get?_nil]

end SheetIntake
