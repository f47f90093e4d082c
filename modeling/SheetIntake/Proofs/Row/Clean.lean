import SheetIntake.Proofs.Calendar.IsoText
import SheetIntake.Proofs.Row.Agreement
import SheetIntake.Proofs.Store.Batch
import SheetIntake.Proofs.Store.Draft
import SheetIntake.Proofs.Workbook.Cells
import SheetIntake.Value.Wire

/-!
# Rows without errors

A row that is checked under the built-in schema and has no error can be stored, and what is stored
of it is the same whether its fields are handed over as they are or in wire form. Each column is
looked at alone: every column meets its rule, and there is one lemma for each kind of column on what
its field then is to a draft and on the wire.
-/

namespace SheetIntake

open Calendar Checked Decimal

variable {site : Site}

/-- A mark says of a value whether it is the word for a verified row. -/
inductive Verified.Marks : Verified → Value → Prop
  | yes {value : Value} (isWord : value = .text "Yes") : Marks .yes value
  | no {value : Value} (otherwise : value ≠ .text "Yes") : Marks .no value

/-- What a record shows of a row: its name, its amount and its date as they are read from the three
columns, and whether the fourth says that the row is verified. -/
structure Record.Shows (site : Site) (record : Record) (row : Row) : Prop where
  name : row.field "Name" = .text record.name
  amount : (row.field "Amount").readNumber = .ok (some record.amount)
  date : (row.field "Date").readDate site = .ok (some record.date)
  verified : record.verified.Marks (row.field "Verified")

/-- A number that is not below one hundredth is stored as it is, because it is no zero. -/
theorem storedAmount_of_fits {amount : Float} (fits : ¬ amount < 0.01) :
    storedAmount amount = amount := by
  unfold storedAmount
  split
  · next zero =>
    rcases eq_zero_of_isZero zero with rfl | rfl
    · exact absurd (by decide) fits
    · exact absurd (by decide) fits
  · rfl

section

variable {rule : Rule} {value field : Value} {now : DateTime}

/-- The field of a column of required texts holds the text of the column, which is not empty. -/
theorem mapped_of_text (ofKind : rule.kind = .text) (required : rule.required = true)
    (meets : rule.Meets site value now) (mapped : mapValue site (some rule) value = .ok field) :
    ∃ content, content.isEmpty = false ∧ value = .text content ∧ field = .text content := by
  obtain ⟨entered, keeps⟩ := meets.keeps_of_required required mapped
  rw [ofKind] at keeps
  cases keeps with
  | text content => exact ⟨content, Value.isEmpty_eq_false_iff.mpr entered, rfl, rfl⟩

/-- The field of a column of required numbers is read as the number of the column, which is finite
and not below the least, and is its own wire form. -/
theorem mapped_of_number {least : Option Float} (ofKind : rule.kind = .number least)
    (required : rule.required = true) (meets : rule.Meets site value now)
    (mapped : mapValue site (some rule) value = .ok field) :
    ∃ amount, value.readNumber = .ok (some amount) ∧ isFinite amount = true ∧
      (∀ limit, least = some limit → ¬ amount < limit) ∧ readFloat field = .ok amount ∧
      field.toWire = field := by
  obtain ⟨_, keeps⟩ := meets.keeps_of_required required mapped
  rw [ofKind] at keeps
  cases keeps with
  | number read finite fits same =>
    refine ⟨_, read, finite, fits, ?_⟩
    cases same with
    | float amount => exact ⟨rfl, rfl⟩
    | int nearest equal => exact ⟨by rw [readFloat, nearest], rfl⟩

/-- The field of a column of required dates holds the date of the column, without an offset. -/
theorem mapped_of_date {currentMonth : Bool} (ofKind : rule.kind = .date currentMonth)
    (required : rule.required = true) (meets : rule.Meets site value now)
    (mapped : mapValue site (some rule) value = .ok field) :
    ∃ clock, value.readDate site = .ok (some clock) ∧ field = .moment (.naive clock) := by
  obtain ⟨_, keeps⟩ := meets.keeps_of_required required mapped
  rw [ofKind] at keeps
  cases keeps with
  | date read current => exact ⟨_, read, rfl⟩

/-- The field of a column for whether a row is verified says whether the column holds the word for
it, and is its own wire form. -/
theorem mapped_of_mark (ofKind : rule.kind = .text) (words : rule.allowed = some ["Yes", "No"])
    (defined : value.isUndefined = false) (meets : rule.Meets site value now)
    (mapped : mapValue site (some rule) value = .ok field) :
    ∃ mark, Draft.readVerified field = .ok mark ∧ field.toWire = field ∧ mark.Marks value := by
  rw [mapValue_of_text ofKind] at mapped
  cases mapped
  cases meets with
  | blank blank optional =>
    cases blank with
    | null => exact ⟨.no, rfl, rfl, .no Value.noConfusion⟩
    | emptyText => exact ⟨.no, rfl, rfl, .no fun same => absurd (Value.text.inj same) (by decide)⟩
    | notANumber undefined => simp [Value.isUndefined, undefined] at defined
  | entered entered accepted allowed =>
    obtain ⟨word, listed, rfl⟩ := allowed _ words
    rw [List.mem_cons, List.mem_singleton] at listed
    rcases listed with rfl | rfl
    · exact ⟨.yes, rfl, rfl, .yes rfl⟩
    · exact ⟨.no, rfl, rfl, .no fun same => absurd (Value.text.inj same) (by decide)⟩

end

/-- Four fields that are read make a row that is kept. -/
theorem kept?_of_fields (draft : Draft) {name amount date verified : Value} {moment : Moment}
    (named : Draft.readName name = .ok draft.name) (counted : readFloat amount = .ok draft.amount)
    (defined : isNotANumber draft.amount = false) (dated : Draft.readDate date = .ok draft.date)
    (known : draft.date.moment? = some moment)
    (marked : Draft.readVerified verified = .ok draft.verified) :
    Row.kept? [("name", name), ("amount", amount), ("date", date), ("verified", verified)] =
      some (draft, moment.clock) := by
  rw [Row.kept?_eq_some_iff]
  refine ⟨draft, moment, Draft.read_eq_ok_iff.mpr ⟨?_, ?_, ?_, ?_⟩, known, defined, rfl⟩
  · exact under_eq_ok_iff.mpr named
  · exact under_eq_ok_iff.mpr counted
  · exact under_eq_ok_iff.mpr dated
  · exact under_eq_ok_iff.mpr marked

/-- The row that is mapped under the built-in schema has four fields, each from its own column. -/
theorem exists_of_mapRow_builtin {row fields : Row}
    (mapped : mapRow site row .builtin = .ok fields) :
    ∃ name amount date verified, fields = [("name", name), ("amount", amount), ("date", date),
        ("verified", verified)] ∧
      mapValue site (Assoc.get? Schema.builtin.rules "Name") (row.field "Name") = .ok name ∧
      mapValue site (Assoc.get? Schema.builtin.rules "Amount") (row.field "Amount") = .ok amount ∧
      mapValue site (Assoc.get? Schema.builtin.rules "Date") (row.field "Date") = .ok date ∧
      mapValue site (Assoc.get? Schema.builtin.rules "Verified") (row.field "Verified") =
        .ok verified := by
  obtain ⟨_, _, nameEntry, amountOn, rfl⟩ := Outcome.mapM_cons_eq_ok_iff.mp mapped
  obtain ⟨_, _, amountEntry, dateOn, rfl⟩ := Outcome.mapM_cons_eq_ok_iff.mp amountOn
  obtain ⟨_, _, dateEntry, verifiedOn, rfl⟩ := Outcome.mapM_cons_eq_ok_iff.mp dateOn
  obtain ⟨_, _, verifiedEntry, nothingOn, rfl⟩ := Outcome.mapM_cons_eq_ok_iff.mp verifiedOn
  cases nothingOn
  obtain ⟨name, nameMapped, nameLast⟩ := Outcome.bind_eq_ok_iff.mp nameEntry
  obtain ⟨amount, amountMapped, amountLast⟩ := Outcome.bind_eq_ok_iff.mp amountEntry
  obtain ⟨date, dateMapped, dateLast⟩ := Outcome.bind_eq_ok_iff.mp dateEntry
  obtain ⟨verified, verifiedMapped, verifiedLast⟩ := Outcome.bind_eq_ok_iff.mp verifiedEntry
  cases nameLast
  cases amountLast
  cases dateLast
  cases verifiedLast
  exact ⟨name, amount, date, verified, rfl, nameMapped, amountMapped, dateMapped, verifiedMapped⟩

/-- A row without errors is mapped to a row that can be stored, and the wire form of that row is
stored as the same. What is stored of either shows what the row holds. -/
theorem kept?_of_clean {row fields : Row} {number : Int} {now : DateTime}
    (defined : ∀ column, (row.field column).isUndefined = false)
    (clean : checkRow site row .builtin number now = .ok [])
    (mapped : mapRow site row .builtin = .ok fields) :
    ∃ entry, Row.kept? fields = some entry ∧ Row.kept? (Value.fieldsToWire fields) = some entry ∧
      ∀ identifier, (Record.ofDraft identifier entry.1 entry.2).Shows site row := by
  obtain ⟨name, amount, date, verified, rfl, nameMapped, amountMapped, dateMapped,
    verifiedMapped⟩ := exists_of_mapRow_builtin mapped
  obtain ⟨content, nonempty, nameRead, rfl⟩ := mapped_of_text rfl rfl
    (Rule.meets_of_checkRow clean rfl) nameMapped
  obtain ⟨size, sizeRead, sizeFinite, sizeFits, counted, amountWire⟩ := mapped_of_number rfl rfl
    (Rule.meets_of_checkRow clean rfl) amountMapped
  obtain ⟨clock, clockRead, rfl⟩ := mapped_of_date rfl rfl (Rule.meets_of_checkRow clean rfl)
    dateMapped
  obtain ⟨mark, marked, verifiedWire, marks⟩ := mapped_of_mark rfl rfl (defined _)
    (Rule.meets_of_checkRow clean rfl) verifiedMapped
  have sizeDefined := isNotANumber_of_isFinite sizeFinite
  have named : Draft.readName (.text content) = .ok content :=
    Draft.readName_eq_ok_iff.mpr ⟨rfl, nonempty⟩
  have dateWire : Draft.readDate (Value.toWire (.moment (.naive clock))) =
      .ok (.moment (.naive clock)) := by
    rw [Value.toWire, Draft.readDate, Draft.momentOfText?_isoText, Draft.orUnparsed]
  have wire : Value.fieldsToWire [("name", .text content), ("amount", amount),
      ("date", .moment (.naive clock)), ("verified", verified)] =
        [("name", .text content), ("amount", amount),
          ("date", Value.toWire (.moment (.naive clock))), ("verified", verified)] := by
    rw [Value.fieldsToWire_eq_map]
    simp only [List.map_cons, List.map_nil, amountWire, verifiedWire]
    rfl
  let draft : Draft := ⟨content, size, .moment (.naive clock), mark⟩
  refine ⟨(draft, clock), ?_, ?_, fun identifier => ⟨nameRead, ?_, clockRead, marks⟩⟩
  · exact kept?_of_fields draft named counted sizeDefined rfl rfl marked
  · rw [wire]
    exact kept?_of_fields draft named counted sizeDefined dateWire rfl marked
  · rw [Record.ofDraft, storedAmount_of_fits (sizeFits _ rfl)]
    exact sizeRead

/-- The cells of a row under their headers are defined when the cells are. -/
theorem isUndefined_namedRow {header : List (Nat × String)} {cells : List (Nat × Value)}
    (defined : ∀ cell ∈ cells, cell.2.isUndefined = false) (column : String) :
    ((Sheet.namedRow header cells).field column).isUndefined = false := by
  rw [Row.field]
  cases found : Assoc.get? (Sheet.namedRow header cells) column with
  | none => rfl
  | some value =>
    have member := Assoc.mem_of_mem_ofPairs (Assoc.mem_of_get? found)
    obtain ⟨cell, present, underHeader⟩ := List.mem_filterMap.mp member
    obtain ⟨name, _, same⟩ := Option.map_eq_some_iff.mp underHeader
    cases same
    exact defined cell present

end SheetIntake
