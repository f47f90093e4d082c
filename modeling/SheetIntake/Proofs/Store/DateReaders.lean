import SheetIntake.Proofs.Calendar.CountedDate
import SheetIntake.Proofs.Calendar.LocalTime
import SheetIntake.Proofs.Calendar.NumeralDate
import SheetIntake.Proofs.Store.WireDate

/-!
# The two readers of dates

A date text is read twice: as the text of a cell, by a lenient reader that moves the clock to that
of its site, and as the date of a draft, by a strict reader that keeps the clock and takes digits
for a Unix time. Where both accept a text, they find the same date-time for the texts of strict form
that have no offset or that of the site, and for no other text.
-/

namespace SheetIntake

open Calendar Checked Decimal

variable {site : Site}

/-- A text that is read as the date of a draft has the strict form of its moment or is a Unix
time. -/
theorem Draft.spells_or_counts {text : String} {moment : Moment}
    (read : Draft.momentOfText? text = some moment) :
    StrictText.Spells moment text.toList ∨ UnixTime.ofText? text.toList = some moment := by
  rw [Draft.momentOfText?, Option.or_eq_some_iff] at read
  rcases read with asMoment | ⟨_, read⟩
  · exact .inl (StrictText.spells_of_readMoment? asMoment)
  · rw [Option.or_eq_some_iff] at read
    rcases read with asDate | ⟨_, asNumber⟩
    · obtain ⟨date, dateRead, rfl⟩ := Option.map_eq_some_iff.mp asDate
      exact .inl (StrictText.spells_of_readDate? dateRead)
    · exact .inr asNumber

/-- A date-time that is read from a text is what the local clock shows at the moment that the text
names. -/
theorem Value.exists_moment_of_readDate {text : String} {clock : DateTime}
    (read : (Value.text text).readDate site = .ok (some clock)) :
    ∃ moment, readDateText site.present text = .moment moment ∧
      moment.toLocal? site = some clock := by
  rw [Value.readDate] at read
  split at read
  · cases read
  · cases read
  · next moment named =>
    refine ⟨moment, named, ?_⟩
    unfold Value.settle at read
    split at read
    · next shown =>
      cases read
      exact shown
    · cases read

/-- The date of a record is the clock of the moment that is read from the text of its row. -/
theorem Record.IsOf.exists_moment {record : Record} {row : Row} {text : String}
    (isOf : record.IsOf row) (found : Assoc.get? row "date" = some (.text text)) :
    ∃ moment, Draft.momentOfText? text = some moment ∧ record.date = moment.clock := by
  have dateRead : ∃ date, Draft.readDate (.text text) = .ok date := by
    obtain ⟨draft, _, rowRead, _⟩ := isOf
    exact ⟨draft.date, Draft.date_of_read found rowRead⟩
  rw [Draft.readDate] at dateRead
  cases known : Draft.momentOfText? text with
  | none =>
    rw [known] at dateRead
    obtain ⟨_, impossible⟩ := dateRead
    cases impossible
  | some moment =>
    refine ⟨moment, rfl, Record.date_of_isOf isOf found ?_⟩
    rw [Draft.readDate, known, Draft.orUnparsed]

/-- A Unix time that a text counts is never the date-time that is read from the text as a cell. -/
theorem Calendar.UnixTime.clock_ne_of_readDate {text : String} {clock : DateTime} {moment : Moment}
    (counts : ofText? text.toList = some moment)
    (parsed : (Value.text text).readDate site = .ok (some clock)) : moment.clock ≠ clock := by
  obtain ⟨found, named, shown⟩ := Value.exists_moment_of_readDate parsed
  obtain ⟨negative, whole, tail, sign, numeral, begins, counted⟩ := exists_numeral_of_ofText? counts
  obtain ⟨positive, noOffset, names⟩ := names_of_readDateText numeral sign named
  rw [← (Moment.clock_eq_iff shown).mpr (Moment.isLocal_of_naive noOffset)]
  exact clock_ne_of_counts begins (counted positive) names

namespace Record.IsOf

variable {record : Record} {row : Row} {text : String} {clock : DateTime} (isOf : record.IsOf row)
  (found : Assoc.get? row "date" = some (.text text))
  (parsed : (Value.text text).readDate site = .ok (some clock))

include isOf found parsed

/-- A record of a row with a text of strict form has the clock that the text spells, and the same
text in a cell is read as what the local clock shows then. -/
theorem date_of_spells {moment : Moment} (spells : StrictText.Spells moment text.toList) :
    record.date = moment.clock ∧ moment.toLocal? site = some clock := by
  obtain ⟨named, namedRead, shown⟩ := Value.exists_moment_of_readDate parsed
  obtain ⟨stored, storedRead, dated⟩ := isOf.exists_moment found
  rw [eq_of_readDateText spells namedRead] at shown
  refine ⟨?_, shown⟩
  rcases Draft.spells_or_counts storedRead with strict | counts
  · rw [dated, ← eq_of_readDateText strict namedRead, eq_of_readDateText spells namedRead]
  · obtain ⟨_, _, _, sign, numeral, _⟩ := UnixTime.exists_numeral_of_ofText? counts
    exact absurd numeral (StrictText.not_numeral_of_spells spells sign)

/-- The record has the date-time that is read from the text in a cell exactly when the text has
strict form and its moment is local. -/
theorem date_eq_iff :
    record.date = clock ↔
      ∃ moment, StrictText.Spells moment text.toList ∧ moment.IsLocal site := by
  constructor
  · intro same
    obtain ⟨stored, storedRead, dated⟩ := isOf.exists_moment found
    rcases Draft.spells_or_counts storedRead with strict | counts
    · have shown := (isOf.date_of_spells found parsed strict).2
      exact ⟨stored, strict, (Moment.clock_eq_iff shown).mp (dated.symm.trans same)⟩
    · exact absurd (dated.symm.trans same) (UnixTime.clock_ne_of_readDate counts parsed)
  · rintro ⟨moment, spells, isLocal⟩
    obtain ⟨dated, shown⟩ := isOf.date_of_spells found parsed spells
    exact dated.trans ((Moment.clock_eq_iff shown).mpr isLocal)

end Record.IsOf

/-- Where a text is read as a date-time in a cell and a row with the text as its date is stored, the
two readers agree exactly on the texts of strict form whose moment has no offset or the one that the
local clock has then. The record has the clock that a text of strict form spells, which in the cell
is moved to the local clock; any other text that is stored counts a Unix time, which is not the
date-time of the cell. -/
theorem date_readers_agree_iff {site : Site} {text : String} {clock : DateTime} {row : Row}
    {rows : List Row} {store next : Store} {count place : Nat}
    (parsed : (Value.text text).readDate site = .ok (some clock))
    (found : Assoc.get? row "date" = some (.text text)) (there : rows[place]? = some row)
    (inserted : store.insertBatch rows = (.ok count, next)) :
    ∃ record, next.records[store.records.length + place]? = some record ∧
      (record.date = clock ↔
        ∃ moment, StrictText.Spells moment text.toList ∧ moment.IsLocal site) ∧
      ((∃ moment, StrictText.Spells moment text.toList ∧
          record.date = moment.clock ∧ moment.toLocal? site = some clock) ∨
        ∃ moment, UnixTime.ofText? text.toList = some moment ∧
          record.date = moment.clock ∧ record.date ≠ clock) := by
  obtain ⟨record, recorded, isOf⟩ := Store.exists_record_of_insertBatch inserted there
  refine ⟨record, recorded, isOf.date_eq_iff found parsed, ?_⟩
  obtain ⟨moment, read, dated⟩ := isOf.exists_moment found
  rcases Draft.spells_or_counts read with strict | counts
  · exact .inl ⟨moment, strict, isOf.date_of_spells found parsed strict⟩
  · refine .inr ⟨moment, counts, dated, ?_⟩
    rw [dated]
    exact UnixTime.clock_ne_of_readDate counts parsed

/-- A row with a date that is two hours ahead of universal time. -/
def rowAhead : Row :=
  [("name", .text "Ann"), ("amount", .float 5.0), ("date", .text "2024-01-15T10:00:00+02:00"),
    ("verified", .text "Yes")]

/-- A row with a date of eight digits. -/
def rowOfDigits : Row :=
  [("name", .text "Bob"), ("amount", .float 5.0), ("date", .text "20240115"),
    ("verified", .text "No")]

theorem exists_middle_of_january : IsDate 2024 1 15 := by decide

/-- The day that both rows name. -/
def middleOfJanuary : Date := ⟨2024, 1, 15, exists_middle_of_january⟩

/-- Eight in the morning of the day. -/
def eightOClock : DateTime := ⟨middleOfJanuary, ⟨8, 0, 0, 0, by decide⟩⟩

/-- A site with a clock of universal time. -/
def siteOfEight : Site := .universal eightOClock

theorem offset_and_digits_are_stored_elsewhere :
    (Value.text "2024-01-15T10:00:00+02:00").readDate siteOfEight = .ok (some eightOClock) ∧
      (Value.text "20240115").readDate siteOfEight = .ok (some (.atMidnight middleOfJanuary)) ∧
      ∃ next first second, Store.empty.insertBatch [rowAhead, rowOfDigits] = (.ok 2, next) ∧
        next.records[0]? = some first ∧ next.records[1]? = some second ∧
        first.date ≠ eightOClock ∧ second.date ≠ .atMidnight middleOfJanuary := by
  have readAhead : (Value.text "2024-01-15T10:00:00+02:00").readDate siteOfEight =
      .ok (some eightOClock) := rfl
  have readDigits : (Value.text "20240115").readDate siteOfEight =
      .ok (some (.atMidnight middleOfJanuary)) := rfl
  obtain ⟨next, inserted⟩ : ∃ next,
      Store.empty.insertBatch [rowAhead, rowOfDigits] = (.ok 2, next) := ⟨_, rfl⟩
  obtain ⟨first, firstRecorded, firstAgrees, _⟩ :=
    @date_readers_agree_iff _ _ _ rowAhead _ _ _ _ 0 readAhead rfl rfl inserted
  obtain ⟨second, secondRecorded, secondAgrees, _⟩ :=
    @date_readers_agree_iff _ _ _ rowOfDigits _ _ _ _ 1 readDigits rfl rfl inserted
  refine ⟨readAhead, readDigits, next, first, second, inserted, firstRecorded, secondRecorded,
    ?_, ?_⟩
  · intro same
    obtain ⟨moment, spells, isLocal⟩ := firstAgrees.mp same
    rw [← @eq_of_readDateText eightOClock moment _ _ spells rfl] at isLocal
    exact absurd (isLocal _ rfl) (by decide)
  · intro same
    obtain ⟨_, spells, _⟩ := secondAgrees.mp same
    obtain ⟨digit, others, shape, _, hyphen⟩ := StrictText.exists_digit_of_spells spells
    have present : '-' ∈ "20240115".toList := shape ▸ List.mem_cons_of_mem digit hyphen
    exact absurd present (by decide)

end SheetIntake
