import SheetIntake.Proofs.Calendar.StandardText
import SheetIntake.Proofs.Row.Agreement
import SheetIntake.Proofs.Row.Mapped
import SheetIntake.Proofs.Row.Respelled
import SheetIntake.Proofs.Store.Batch
import SheetIntake.Proofs.Store.Draft
import SheetIntake.Value.Wire

/-!
# Dates in wire form

A date-time is sent as its ISO text. The text is read in two places, as the text of a cell and as
the date of a draft, by readers that have nothing in common; both give the date-time back. So a cell
of a date column that is mapped, sent and stored keeps its date.
-/

namespace SheetIntake

open Calendar Checked

variable {site : Site}

/-- Whether a row that is stored has a date in its record, wherever it stands in its batch and
whatever is stored already. -/
def Row.StoresDate (row : Row) (clock : DateTime) : Prop :=
  ∀ (store next : Store) (rows : List Row) (count place : Nat),
    store.insertBatch rows = (.ok count, next) → rows[place]? = some row →
      ∃ record, next.records[store.records.length + place]? = some record ∧ record.date = clock

namespace Draft

/-- Two rows that agree on all fields but one, and have the same date, are read alike. -/
theorem read_of_same_date {row : Row} {value other : Value}
    (found : Assoc.get? row "date" = some value) (same : readDate value = readDate other) :
    Draft.read row = Draft.read (Assoc.put row "date" other) := by
  have elsewhere : ∀ name, "date" ≠ name →
      Assoc.get? (Assoc.put row "date" other) name = Assoc.get? row name :=
    fun _ differs => Assoc.get?_put_of_ne row other differs
  simp only [Draft.read, readRequired, readDefault, elsewhere "name" (by decide),
    elsewhere "amount" (by decide), elsewhere "verified" (by decide), Assoc.get?_put_self, found,
    same]

/-- The draft of a row has the date that is read from the row. -/
theorem date_of_read {row : Row} {draft : Draft} {value : Value}
    (found : Assoc.get? row "date" = some value) (read : Draft.read row = .ok draft) :
    readDate value = .ok draft.date := by
  obtain ⟨given, there, dateRead⟩ := readRequired_eq_ok_iff.mp (read_eq_ok_iff.mp read).2.2.1
  rw [found] at there
  cases there
  exact dateRead

theorem readDate_isoText (clock : DateTime) :
    readDate (.text (Moment.naive clock).isoText) = .ok (.moment (.naive clock)) := by
  rw [readDate, momentOfText?_isoText, orUnparsed]

end Draft

/-- A record of a row whose date is read as a moment has what the clock of the moment shows. -/
theorem Record.date_of_isOf {record : Record} {row : Row} {value : Value} {moment : Moment}
    (isOf : record.IsOf row) (found : Assoc.get? row "date" = some value)
    (read : Draft.readDate value = .ok (.moment moment)) : record.date = moment.clock := by
  obtain ⟨draft, known, rowRead, dated, _, same⟩ := isOf
  have date := (Draft.date_of_read found rowRead).symm.trans read
  rw [Except.ok.inj date, DraftDate.moment?] at dated
  cases dated
  rw [same, Record.ofDraft]

theorem Row.storesDate_of_readDate {row : Row} {value : Value} {moment : Moment}
    (found : Assoc.get? row "date" = some value)
    (read : Draft.readDate value = .ok (.moment moment)) : row.StoresDate moment.clock := by
  intro store next rows count place inserted there
  obtain ⟨record, recorded, isOf⟩ := Store.exists_record_of_insertBatch inserted there
  exact ⟨record, recorded, Record.date_of_isOf isOf found read⟩

/-- The field of a column of dates holds the date-time that is read from the column. -/
theorem get?_of_mapRow_date {schema : Schema} {row fields : Row} {column field : String}
    {rule : Rule} {currentMonth : Bool} {clock : DateTime}
    (maps : (column, field) ∈ schema.mapping) (ruled : Assoc.get? schema.rules column = some rule)
    (ofKind : rule.kind = .date currentMonth)
    (read : (row.field column).readDate site = .ok (some clock))
    (mapped : mapRow site row schema = .ok fields) :
    Assoc.get? fields field = some (.dateTime clock) := by
  obtain ⟨found, value, rulesColumn, valueMapped, there⟩ := get?_mapRow mapped maps
  rw [ruled] at rulesColumn
  cases rulesColumn
  have entered : (row.field column).isEmpty = false :=
    Value.isEmpty_eq_false_iff.mpr (Value.not_isBlank_of_readDate read)
  rw [mapValue, if_pos (Value.isTruthy_of_readDate entered read), ofKind, RuleKind.coerce, read]
    at valueMapped
  rw [there]
  exact congrArg some (Except.ok.inj valueMapped).symm

/-- The wire form of a date-time is a text that is read back as the date-time: by the reader of
cells, and as the date of a row, which is then checked as if the date-time itself stood there. So a
cell that is read as a date-time in a column of dates keeps it when its row is mapped, sent and
stored. -/
theorem wire_date_reads_back (site : Site) (clock : DateTime) :
    ∃ text, (Value.dateTime clock).toWire = .text text ∧
      (Value.text text).readDate site = .ok (some clock) ∧
      (∀ row : Row, Assoc.get? row "date" = some (.text text) →
        Draft.read row = Draft.read (Assoc.put row "date" (.dateTime clock)) ∧
        (∀ draft, Draft.read row = .ok draft → draft.date = .moment (.naive clock)) ∧
        row.StoresDate clock) ∧
      ∀ (schema : Schema) (column : String) (rule : Rule) (currentMonth : Bool) (row fields : Row),
        (column, "date") ∈ schema.mapping → Assoc.get? schema.rules column = some rule →
        rule.kind = .date currentMonth → (row.field column).readDate site = .ok (some clock) →
        mapRow site row schema = .ok fields →
          Assoc.get? (Value.fieldsToWire fields) "date" = some (.text text) ∧
            (Value.fieldsToWire fields).StoresDate clock := by
  have asDate : ∀ row : Row, Assoc.get? row "date" = some (.text (Moment.naive clock).isoText) →
      row.StoresDate clock :=
    fun _ found => Row.storesDate_of_readDate found (Draft.readDate_isoText clock)
  refine ⟨(Moment.naive clock).isoText, by rw [Value.dateTime, Value.toWire], ?_, ?_, ?_⟩
  · rw [Value.readDate, readDateText_isoText]
    rfl
  · intro row found
    have same : Draft.readDate (.text (Moment.naive clock).isoText) =
        Draft.readDate (.dateTime clock) := Draft.readDate_isoText clock
    refine ⟨Draft.read_of_same_date found same, fun draft read => ?_, asDate row found⟩
    exact (Except.ok.inj ((Draft.readDate_isoText clock).symm.trans
      (Draft.date_of_read found read))).symm
  · intro schema column rule currentMonth row fields maps ruled ofKind read mapped
    have there := get?_of_mapRow_date maps ruled ofKind read mapped
    have sent : Assoc.get? (Value.fieldsToWire fields) "date" =
        some (.text (Moment.naive clock).isoText) := by
      rw [Value.fieldsToWire_eq_map, Assoc.get?_map, there, Option.map_some, Value.dateTime,
        Value.toWire]
    exact ⟨sent, asDate _ sent⟩

/-- The last microsecond of a leap day. -/
def endOfLeapDay : DateTime := ⟨⟨2024, 2, 29, by decide⟩, ⟨23, 59, 59, 999999, by decide⟩⟩

/-- A row with a cell for that date. -/
def rowOfLeapDay : Row :=
  [("Name", .text "Ann"), ("Amount", .int 5), ("Date", .dateTime endOfLeapDay),
    ("Verified", .text "Yes")]

/-- What the row is mapped to. -/
def fieldsOfLeapDay : Row :=
  [("name", .text "Ann"), ("amount", .float 5.0), ("date", .dateTime endOfLeapDay),
    ("verified", .text "Yes")]

/-- A site with a clock of universal time. -/
def siteOfLeapDay : Site := .universal endOfLeapDay

theorem leap_day_is_stored :
    mapRow siteOfLeapDay rowOfLeapDay .builtin = .ok fieldsOfLeapDay ∧
      ∃ next record, Store.empty.insertBatch [Value.fieldsToWire fieldsOfLeapDay] = (.ok 1, next) ∧
        next.records[0]? = some record ∧ record.date = endOfLeapDay := by
  obtain ⟨_, _, _, _, keeps⟩ := wire_date_reads_back siteOfLeapDay endOfLeapDay
  have mapped : mapRow siteOfLeapDay rowOfLeapDay .builtin = .ok fieldsOfLeapDay := rfl
  have maps : ("Date", "date") ∈ Schema.builtin.mapping := by decide
  obtain ⟨_, stores⟩ := keeps .builtin "Date" _ _ rowOfLeapDay _ maps rfl rfl rfl mapped
  obtain ⟨record, recorded, dated⟩ :=
    stores .empty _ [Value.fieldsToWire fieldsOfLeapDay] 1 0 rfl rfl
  exact ⟨mapped, _, record, rfl, recorded, dated⟩

end SheetIntake
