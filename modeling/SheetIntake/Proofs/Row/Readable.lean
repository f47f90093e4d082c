import SheetIntake.Proofs.Calendar.LocalTime
import SheetIntake.Proofs.Decimal.IntegerRange
import SheetIntake.Proofs.Outcome
import SheetIntake.Row.Check
import SheetIntake.Row.Mapping

/-!
# Rows that can be checked and mapped

Nearly every value of a cell can be checked and mapped, whatever the kind of its column: what is no
number or no date is reported as such. The exceptions are integers beyond all floats in number
columns, and in date columns moments that leave the calendar once their offset is taken away and
texts that spell the year zero. `checked_and_mapped_iff_readable` says that these are all of them,
and how a row fails that has one.
-/

namespace SheetIntake

open Calendar Decimal Text

variable {site : Site}

namespace Calendar

namespace DateText

theorem readingOfPhrase_ne_yearZero (complete : Bool) (characters : List Char) :
    readingOfPhrase complete characters ≠ .yearZero := by
  unfold readingOfPhrase
  split
  · split <;> exact DateReading.noConfusion
  · exact DateReading.noConfusion

theorem readBareYear?_ne_yearZero {characters : List Char} {reading : DateReading}
    (read : readBareYear? characters = some reading) : reading ≠ .yearZero := by
  unfold readBareYear? at read
  split at read
  · cases read
  · obtain ⟨value, _, rest⟩ := Option.bind_eq_some_iff.mp read
    obtain ⟨date, _, last⟩ := Option.bind_eq_some_iff.mp rest
    cases last
    exact DateReading.noConfusion

theorem readQuarter?_ne_yearZero {characters : List Char} {reading : DateReading}
    (read : readQuarter? characters = some reading) : reading ≠ .yearZero := by
  obtain ⟨parts, _, afterParts⟩ := Option.bind_eq_some_iff.mp read
  obtain ⟨quarter, _, afterQuarter⟩ := Option.bind_eq_some_iff.mp afterParts
  obtain ⟨year, _, rest⟩ := Option.bind_eq_some_iff.mp afterQuarter
  split at rest
  · cases rest
    exact DateReading.noConfusion
  · obtain ⟨date, _, last⟩ := Option.bind_eq_some_iff.mp rest
    cases last
    exact DateReading.noConfusion

/-- No form but the standard one spells the year zero. -/
theorem readOther_ne_yearZero (characters : List Char) : readOther characters ≠ .yearZero := by
  unfold readOther
  split
  · exact DateReading.noConfusion
  · split
    · exact readingOfPhrase_ne_yearZero true characters
    · split
      · exact DateReading.noConfusion
      · exact DateReading.noConfusion
      · split
        · next bareYear => exact readBareYear?_ne_yearZero bareYear
        · split
          · next quarter => exact readQuarter?_ne_yearZero quarter
          · exact readingOfPhrase_ne_yearZero false characters

theorem reading_eq_yearZero_iff (fields : Fields) :
    fields.reading = .yearZero ↔ fields.year = 0 ∧ fields.finer = [] := by
  unfold Fields.reading
  split
  · next zero => simp [zero]
  · next positive =>
    refine iff_of_false ?_ fun both => positive both.1
    split
    · split <;> exact DateReading.noConfusion
    · exact DateReading.noConfusion

end DateText

/-- A text spells the year zero when it has the standard form with that year, and no fraction that
is counted in nanoseconds. -/
theorem readDateText_eq_yearZero_iff {present : DateTime} {text : String} :
    readDateText present text = .yearZero ↔
      ∃ fields, DateText.readFields? (strip isBlank text.toList) = some fields ∧
        fields.year = 0 ∧ fields.finer = [] := by
  unfold readDateText DateText.read
  split
  · next none =>
    have nothing : DateText.readFields? [] = Option.none := rfl
    simp [none, nothing]
  · split
    · next word =>
      have noFields : ∀ present ∈ DateText.presentWords, DateText.readFields? present = none := by
        decide
      simp [noFields _ word]
    · split
      · next fields standard => simp [standard, DateText.reading_eq_yearZero_iff]
      · next other => simp [other, DateText.readOther_ne_yearZero]

end Calendar

/-- The values that cannot be checked or mapped in columns of a kind, and how that fails. -/
inductive RuleKind.Unreadable (site : Site) : RuleKind → Value → Failure → Prop
  /-- An integer beyond all floats. -/
  | integer {least : Option Float} {whole : Int} (beyond : floatLimit ≤ whole.natAbs) :
    Unreadable site (.number least) (.int whole) .overflow
  /-- A moment that leaves the calendar. -/
  | moment {currentMonth : Bool} {moment : Moment} (leaves : moment.LeavesCalendar site) :
    Unreadable site (.date currentMonth) (.moment moment) .overflow
  /-- A stamp that leaves the calendar. -/
  | stamp {currentMonth : Bool} {moment : Moment} (leaves : moment.LeavesCalendar site) :
    Unreadable site (.date currentMonth) (.stamp (some moment)) .overflow
  /-- A text that spells a moment that leaves the calendar. -/
  | text {currentMonth : Bool} {text : String} {moment : Moment}
    (spells : readDateText site.present text = .moment moment)
    (leaves : moment.LeavesCalendar site) :
    Unreadable site (.date currentMonth) (.text text) .overflow
  /-- A text that spells the year zero. -/
  | yearZero {currentMonth : Bool} {text : String}
    (spells : readDateText site.present text = .yearZero) :
    Unreadable site (.date currentMonth) (.text text) .badValue

namespace Value

/-- A number cannot be read from an integer beyond all floats, and from nothing else. -/
theorem readNumber_eq_error_iff {value : Value} {failure : Failure} (least : Option Float) :
    value.readNumber = .error failure ↔ (RuleKind.number least).Unreadable site value failure := by
  constructor
  · intro failed
    unfold readNumber at failed
    split at failed
    · next whole =>
      split at failed
      · cases failed
      · next none =>
        cases failed
        exact .integer (ofInteger?_eq_none_iff.mp none)
    · cases failed
    · cases failed
    · cases failed
  · rintro ⟨beyond⟩
    rw [readNumber, ofInteger?_eq_none_iff.mpr beyond]

theorem settle_eq_error_iff {moment : Moment} {failure : Failure} :
    settle site moment = .error failure ↔ moment.LeavesCalendar site ∧ failure = .overflow := by
  rw [settle, ← Moment.toLocal?_eq_none_iff]
  split
  · next clock found => simp [found]
  · next none => simp [none, eq_comm]

/-- A date cannot be read from a moment that leaves the calendar, or from a text that spells such a
moment or the year zero, and from nothing else. -/
theorem readDate_eq_error_iff {value : Value} {failure : Failure} (currentMonth : Bool) :
    value.readDate site = .error failure ↔
      (RuleKind.date currentMonth).Unreadable site value failure := by
  constructor
  · intro failed
    unfold readDate at failed
    split at failed
    · obtain ⟨leaves, rfl⟩ := settle_eq_error_iff.mp failed
      exact .moment leaves
    · obtain ⟨leaves, rfl⟩ := settle_eq_error_iff.mp failed
      exact .stamp leaves
    · cases failed
    · split at failed
      · cases failed
      · next spells =>
        cases failed
        exact .yearZero spells
      · next spells =>
        obtain ⟨leaves, rfl⟩ := settle_eq_error_iff.mp failed
        exact .text spells leaves
    · cases failed
  · intro unreadable
    cases unreadable with
    | moment leaves => exact settle_eq_error_iff.mpr ⟨leaves, rfl⟩
    | stamp leaves => exact settle_eq_error_iff.mpr ⟨leaves, rfl⟩
    | text spells leaves =>
      rw [readDate, spells]
      exact settle_eq_error_iff.mpr ⟨leaves, rfl⟩
    | yearZero spells => rw [readDate, spells]

-- Midnight of universal time on the first day of all is a day earlier five hours to the west.
example :
    let first : DateTime := .atMidnight ⟨1, 1, 1, by decide⟩
    let behind : Site := ⟨first, fun _ => -18000, fun _ => by decide⟩
    (Value.text "0001-01-01T00:00:00Z").readDate (.universal first) = .ok (some first) ∧
      (Value.text "0001-01-01T00:00:00Z").readDate behind = .error .overflow := by decide

end Value

namespace RuleKind

theorem complaint?_eq_error_iff {kind : RuleKind} {value : Value} {now : DateTime}
    {failure : Failure} :
    kind.complaint? site value now = .error failure ↔ kind.Unreadable site value failure := by
  cases kind with
  | text => exact iff_of_false (fun failed => nomatch failed) fun unreadable => nomatch unreadable
  | number least => exact Outcome.map_eq_error_iff.trans (Value.readNumber_eq_error_iff least)
  | date currentMonth =>
    exact Outcome.map_eq_error_iff.trans (Value.readDate_eq_error_iff currentMonth)

theorem coerce_eq_error_iff {kind : RuleKind} {value : Value} {failure : Failure} :
    kind.coerce site value = .error failure ↔ kind.Unreadable site value failure := by
  cases kind with
  | text => exact iff_of_false (fun failed => nomatch failed) fun unreadable => nomatch unreadable
  | number least => exact Outcome.map_eq_error_iff.trans (Value.readNumber_eq_error_iff least)
  | date currentMonth =>
    exact Outcome.map_eq_error_iff.trans (Value.readDate_eq_error_iff currentMonth)

namespace Unreadable

variable {kind : RuleKind} {value : Value} {failure : Failure}

/-- A text that spells something is not empty. -/
theorem isEmpty_of_spells {text : String} (spells : readDateText site.present text ≠ .notADate) :
    text.isEmpty = false := by
  rw [← Bool.not_eq_true, String.isEmpty_iff]
  rintro rfl
  exact spells rfl

/-- What cannot be read is not empty. -/
theorem isEmpty (unreadable : kind.Unreadable site value failure) : value.isEmpty = false := by
  cases unreadable with
  | integer beyond => rfl
  | moment leaves => rfl
  | stamp leaves => rfl
  | text spells leaves => exact isEmpty_of_spells (spells.trans_ne DateReading.noConfusion)
  | yearZero spells => exact isEmpty_of_spells (spells.trans_ne DateReading.noConfusion)

/-- What cannot be read counts as given. -/
theorem isTruthy (unreadable : kind.Unreadable site value failure) : value.isTruthy = true := by
  cases unreadable with
  | @integer _ whole beyond =>
    have positive : 0 < floatLimit := Nat.mul_pos (by decide) (Nat.two_pow_pos roundPlace)
    rw [Value.isTruthy, bne_iff_ne]
    rintro rfl
    omega
  | moment leaves => rfl
  | stamp leaves => rfl
  | text spells leaves =>
    rw [Value.isTruthy, isEmpty_of_spells (spells.trans_ne DateReading.noConfusion), Bool.not_false]
  | yearZero spells =>
    rw [Value.isTruthy, isEmpty_of_spells (spells.trans_ne DateReading.noConfusion), Bool.not_false]

end Unreadable

end RuleKind

theorem Rule.complaints_eq_error_iff {rule : Rule} {value : Value} {now : DateTime}
    {failure : Failure} :
    rule.complaints site value now = .error failure ↔ rule.kind.Unreadable site value failure := by
  unfold Rule.complaints
  split
  · next empty =>
    refine iff_of_false (fun failed => nomatch failed) fun unreadable => ?_
    rw [unreadable.isEmpty] at empty
    cases empty
  · rw [Outcome.bind_eq_error_iff, RuleKind.complaint?_eq_error_iff, or_iff_left]
    rintro ⟨_, _, last⟩
    cases last

/-- A row with a number from one on can report anything. -/
theorem report_answers {number : Int} (positive : 1 ≤ number) (message : String) :
    ∃ error, RowError.report number message = .ok error := by
  unfold RowError.report
  rw [dif_pos (by omega)]
  exact ⟨_, rfl⟩

/-- A column of a row cannot be checked exactly when its value cannot be read. -/
theorem checkColumn_eq_error_iff {row : Row} {number : Int} (positive : 1 ≤ number)
    {now : DateTime} {column : String} {rule : Rule} {failure : Failure} :
    checkColumn site row number now column rule = .error failure ↔
      rule.kind.Unreadable site (row.field column) failure := by
  unfold checkColumn
  rw [Outcome.bind_eq_error_iff, Rule.complaints_eq_error_iff, or_iff_left]
  rintro ⟨complaints, _, failed⟩
  obtain ⟨_, complaint, _, _, _, notReported⟩ := Outcome.mapM_eq_error_iff.mp failed
  obtain ⟨error, reported⟩ := report_answers positive (complaintText number column complaint)
  rw [reported] at notReported
  cases notReported

theorem mapValue_eq_error_iff {rule : Option Rule} {value : Value} {failure : Failure} :
    mapValue site rule value = .error failure ↔
      ∃ known, rule = some known ∧ known.kind.Unreadable site value failure := by
  unfold mapValue
  split
  · next known =>
    simp only [Option.some.injEq, exists_eq_left']
    split
    · exact RuleKind.coerce_eq_error_iff
    · next absent =>
      exact iff_of_false (fun failed => nomatch failed) fun unreadable => absent unreadable.isTruthy
  · simp

/-- Whether none of some columns of a row holds a value that the rule of the column cannot read. -/
def Row.IsReadable (site : Site) (row : Row) (schema : Schema) (columns : List String) : Prop :=
  ∀ column ∈ columns, ∀ rule failure, Assoc.get? schema.rules column = some rule →
    ¬ rule.kind.Unreadable site (row.field column) failure

section

variable {row : Row} {schema : Schema} {number : Int} {now : DateTime}

theorem checkRow_answers_iff (positive : 1 ≤ number) :
    (∃ errors, checkRow site row schema number now = .ok errors) ↔
      row.IsReadable site schema (Assoc.keys schema.rules) := by
  have columns : (∃ errors, checkRow site row schema number now = .ok errors) ↔
      ∃ found, (schema.rules.mapM fun entry => checkColumn site row number now entry.1 entry.2) =
        .ok found := by
    rw [checkRow, Outcome.bind_answers_iff]
    exact exists_congr fun found => and_iff_left ⟨found.flatten, rfl⟩
  rw [columns, Outcome.mapM_answers_iff]
  simp only [Outcome.exists_ok_iff, Ne, checkColumn_eq_error_iff positive]
  constructor
  · intro readable column _ rule failure found
    exact readable (column, rule) (Assoc.mem_of_get? found) failure
  · intro readable entry present failure
    exact readable entry.1 (List.mem_map_of_mem present) entry.2 failure
      ((Assoc.get?_eq_some_iff_mem schema.rules_nodup).mpr present)

/-- A field has no value exactly when the value of its column cannot be read. -/
theorem fieldValue_eq_error_iff {entry : String × String} {failure : Failure} :
    (do
      let value ← mapValue site (Assoc.get? schema.rules entry.1) (row.field entry.1)
      return (entry.2, value) : Except Failure (String × Value)) = .error failure ↔
      ∃ rule, Assoc.get? schema.rules entry.1 = some rule ∧
        rule.kind.Unreadable site (row.field entry.1) failure := by
  rw [Outcome.bind_eq_error_iff, mapValue_eq_error_iff, or_iff_left]
  rintro ⟨_, _, last⟩
  cases last

theorem mapRow_answers_iff :
    (∃ fields, mapRow site row schema = .ok fields) ↔
      row.IsReadable site schema schema.requiredColumns := by
  rw [mapRow, Outcome.mapM_answers_iff]
  simp only [Outcome.exists_ok_iff, Ne, fieldValue_eq_error_iff]
  constructor
  · intro readable column required rule failure found unreadable
    obtain ⟨entry, present, rfl⟩ := List.mem_map.mp required
    exact readable entry present failure ⟨rule, found, unreadable⟩
  · rintro readable entry present failure ⟨rule, found, unreadable⟩
    exact readable entry.1 (List.mem_map_of_mem present) rule failure found unreadable

/-- A row that can be checked can be mapped, because every mapped column has a rule. -/
theorem mapRow_answers_of_checkRow (positive : 1 ≤ number) {errors : List RowError}
    (checked : checkRow site row schema number now = .ok errors) :
    ∃ fields, mapRow site row schema = .ok fields := by
  have readable := (checkRow_answers_iff positive).mp ⟨errors, checked⟩
  rw [mapRow_answers_iff]
  intro column required
  exact readable column ((Assoc.isSome_get?_iff _ _).mp (schema.covered column required))

theorem exists_unreadable_of_checkRow (positive : 1 ≤ number) {failure : Failure}
    (failed : checkRow site row schema number now = .error failure) :
    ∃ column rule, Assoc.get? schema.rules column = some rule ∧
      rule.kind.Unreadable site (row.field column) failure := by
  rcases Outcome.bind_eq_error_iff.mp failed with notFound | ⟨_, _, last⟩
  · obtain ⟨before, entry, after, split, _, entryFailed⟩ := Outcome.mapM_eq_error_iff.mp notFound
    have present : entry ∈ schema.rules := split ▸ List.mem_append_right _ List.mem_cons_self
    exact ⟨entry.1, entry.2, (Assoc.get?_eq_some_iff_mem schema.rules_nodup).mpr present,
      (checkColumn_eq_error_iff positive).mp entryFailed⟩
  · cases last

theorem exists_unreadable_of_mapRow {failure : Failure}
    (failed : mapRow site row schema = .error failure) :
    ∃ column rule, Assoc.get? schema.rules column = some rule ∧
      rule.kind.Unreadable site (row.field column) failure := by
  obtain ⟨_, entry, _, _, _, entryFailed⟩ := Outcome.mapM_eq_error_iff.mp failed
  obtain ⟨rule, found, unreadable⟩ := fieldValue_eq_error_iff.mp entryFailed
  exact ⟨entry.1, rule, found, unreadable⟩

end

/-- A row is checked exactly when all its ruled columns can be read, and mapped exactly when all its
mapped columns can. Otherwise it fails as one of its columns does. -/
theorem checked_and_mapped_iff_readable (site : Site) (row : Row) (schema : Schema) {number : Int}
    (positive : 1 ≤ number) (now : DateTime) :
    ((∃ errors, checkRow site row schema number now = .ok errors) ↔
        row.IsReadable site schema (Assoc.keys schema.rules)) ∧
      ((∃ fields, mapRow site row schema = .ok fields) ↔
        row.IsReadable site schema schema.requiredColumns) ∧
      ∀ failure, checkRow site row schema number now = .error failure ∨
          mapRow site row schema = .error failure →
        ∃ column rule, Assoc.get? schema.rules column = some rule ∧
          rule.kind.Unreadable site (row.field column) failure := by
  refine ⟨checkRow_answers_iff positive, mapRow_answers_iff, ?_⟩
  rintro failure (notChecked | notMapped)
  · exact exists_unreadable_of_checkRow positive notChecked
  · exact exists_unreadable_of_mapRow notMapped

/-- A row with the least amount that is beyond all floats. -/
def rowOfHugeAmount : Row := [("Amount", .int floatLimit)]

/-- The day on which that row is checked. -/
def dayOfHugeAmount : DateTime := .atMidnight ⟨2024, 1, 2, by decide⟩

/-- A site where it is, with a clock of universal time. -/
def siteOfHugeAmount : Site := .universal dayOfHugeAmount

theorem not_checked_nor_mapped_of_huge_amount :
    (1 : Int) ≤ 2 ∧
      (¬ ∃ errors,
        checkRow siteOfHugeAmount rowOfHugeAmount .builtin 2 dayOfHugeAmount = .ok errors) ∧
      ¬ ∃ fields, mapRow siteOfHugeAmount rowOfHugeAmount .builtin = .ok fields := by
  have positive : (1 : Int) ≤ 2 := by decide
  obtain ⟨checked, mapped, _⟩ := checked_and_mapped_iff_readable siteOfHugeAmount rowOfHugeAmount
    .builtin positive dayOfHugeAmount
  have unreadable : (RuleKind.number (some 0.01)).Unreadable siteOfHugeAmount
      (Row.field rowOfHugeAmount "Amount") .overflow :=
    .integer (Nat.le_of_eq (Int.natAbs_natCast floatLimit).symm)
  refine ⟨positive, fun answered => ?_, fun answered => ?_⟩
  · exact checked.mp answered "Amount" (by decide) _ _ rfl unreadable
  · exact mapped.mp answered "Amount" (by decide) _ _ rfl unreadable

end SheetIntake
