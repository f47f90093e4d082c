import SheetIntake.Proofs.Row.Mapped
import SheetIntake.Proofs.Row.Verdict
import SheetIntake.Proofs.Sheet.HeaderColumn
import SheetIntake.Sheet.Review

/-!
# Sheets with rearranged columns

A review looks columns up by their header texts. So it makes no difference in which columns the
texts stand and in which order cells are listed, and none what stands under a text that the schema
does not name or in a column without a header. `ofSheet_of_rearranged` says so of whole reviews,
those that fail among them.
-/

namespace SheetIntake

open Calendar

/-- Whether a schema names a header text, to map its column or to check it. -/
def Schema.Names (schema : Schema) (text : String) : Prop :=
  text ∈ schema.requiredColumns ∨ text ∈ Assoc.keys schema.rules

namespace Sheet

/-- A sheet with its columns renumbered, in the header and in each row. Entries may be listed in any
order. -/
structure IsRenumbered (renumber : Nat → Nat) (sheet other : Sheet) : Prop where
  name : other.name = sheet.name
  header : other.header.Perm (sheet.header.map fun entry => (renumber entry.1, entry.2))
  rows : List.Forall₂ (fun row moved => moved.number = row.number ∧
    moved.cells.Perm (row.cells.map fun cell => (renumber cell.1, cell.2))) sheet.rows other.rows

/-- Two sheets that differ at most in columns whose header text a schema does not name and in cells
without a header. -/
structure AgreesOnNamed (schema : Schema) (sheet other : Sheet) : Prop where
  name : other.name = sheet.name
  header : ∀ column text, schema.Names text →
    ((column, text) ∈ other.header ↔ (column, text) ∈ sheet.header)
  rows : List.Forall₂ (fun row changed => changed.number = row.number ∧
    ∀ column text, schema.Names text → (column, text) ∈ sheet.header →
      Assoc.get? changed.cells column = Assoc.get? row.cells column) sheet.rows other.rows

/-- What both have in common: the texts that a schema names stand in columns of the one sheet that
correspond to columns of the other, and rows have the same cells there. -/
structure Corresponds (schema : Schema) (move : Nat → Nat) (sheet other : Sheet) : Prop where
  name : other.name = sheet.name
  header : ∀ text, schema.Names text → ∀ place,
    (place, text) ∈ other.header ↔ ∃ column, (column, text) ∈ sheet.header ∧ move column = place
  rows : List.Forall₂ (fun row moved => moved.number = row.number ∧
    ∀ column text, schema.Names text → (column, text) ∈ sheet.header →
      Assoc.get? moved.cells (move column) = Assoc.get? row.cells column) sheet.rows other.rows

section

variable {schema : Schema} {sheet other : Sheet} {move : Nat → Nat}

theorem IsRenumbered.isKeyed (injective : Function.Injective move)
    (renumbered : sheet.IsRenumbered move other) (keyed : sheet.IsKeyed) : other.IsKeyed := by
  constructor
  · exact (renumbered.header.map Prod.fst).nodup_iff.mpr
      (Assoc.nodup_keys_rename injective keyed.header)
  · intro moved present
    obtain ⟨row, inRows, _, cells⟩ := Outcome.exists_matched_of_mem renumbered.rows.flip present
    exact (cells.map Prod.fst).nodup_iff.mpr
      (Assoc.nodup_keys_rename injective (keyed.cells row inRows))

theorem IsRenumbered.corresponds (injective : Function.Injective move)
    (renumbered : sheet.IsRenumbered move other) (keyed : sheet.IsKeyed) (schema : Schema) :
    sheet.Corresponds schema move other where
  name := renumbered.name
  header := by
    intro text _ place
    rw [renumbered.header.mem_iff, List.mem_map]
    constructor
    · rintro ⟨entry, present, same⟩
      cases same
      exact ⟨entry.1, present, rfl⟩
    · rintro ⟨column, present, rfl⟩
      exact ⟨(column, text), present, rfl⟩
  rows := by
    refine ((List.forall₂_and_left _ _).mpr ⟨keyed.cells, renumbered.rows⟩).imp ?_
    rintro row moved ⟨once, number, cells⟩
    refine ⟨number, fun column text _ _ => ?_⟩
    rw [Assoc.get?_perm (Assoc.nodup_keys_rename injective once) cells,
      Assoc.get?_rename injective]

theorem AgreesOnNamed.corresponds (agrees : sheet.AgreesOnNamed schema other) :
    sheet.Corresponds schema id other where
  name := agrees.name
  header text named place := by simp [agrees.header place text named]
  rows := agrees.rows

/-- A text that is named heads a column of the one sheet when it heads one of the other. -/
theorem Corresponds.mem_values_iff (corresponds : sheet.Corresponds schema move other)
    {text : String} (named : schema.Names text) :
    text ∈ Assoc.values other.header ↔ text ∈ Assoc.values sheet.header := by
  simp [Assoc.values, corresponds.header text named]

theorem Corresponds.missingColumns_eq (corresponds : sheet.Corresponds schema move other) :
    missingColumns other.header schema = missingColumns sheet.header schema := by
  apply List.filter_congr
  intro column required
  have same := corresponds.mem_values_iff (.inl required)
  simp [same]

/-- Under a text that is named, corresponding rows hold the same. -/
theorem Corresponds.get?_namedRow_eq (corresponds : sheet.Corresponds schema move other)
    (keyed : sheet.IsKeyed) (otherKeyed : other.IsKeyed)
    (distinct : (Assoc.values sheet.header).Nodup) {row moved : SheetRow}
    (once : (Assoc.keys row.cells).Nodup) (movedOnce : (Assoc.keys moved.cells).Nodup)
    (cells : ∀ column text, schema.Names text → (column, text) ∈ sheet.header →
      Assoc.get? moved.cells (move column) = Assoc.get? row.cells column)
    {text : String} (named : schema.Names text) :
    Assoc.get? (namedRow other.header moved.cells) text =
      Assoc.get? (namedRow sheet.header row.cells) text := by
  have places := corresponds.header text named
  by_cases listed : ∃ column, (column, text) ∈ sheet.header
  · obtain ⟨column, present⟩ := listed
    have own : Assoc.get? (namedRow sheet.header row.cells) text = Assoc.get? row.cells column := by
      apply get?_namedRow_of_only ((Assoc.get?_eq_some_iff_mem keyed.header).mpr present) _ once
      intro another headed
      exact Assoc.key_unique distinct (Assoc.mem_of_get? headed) present
    have there : Assoc.get? (namedRow other.header moved.cells) text =
        Assoc.get? moved.cells (move column) := by
      apply get?_namedRow_of_only _ _ movedOnce
      · exact (Assoc.get?_eq_some_iff_mem otherKeyed.header).mpr
          ((places _).mpr ⟨column, present, rfl⟩)
      · intro place headed
        obtain ⟨another, anotherPresent, rfl⟩ := (places place).mp (Assoc.mem_of_get? headed)
        rw [Assoc.key_unique distinct anotherPresent present]
    rw [own, there, cells column text named present]
  · have nothing : Assoc.get? (namedRow sheet.header row.cells) text = none :=
      get?_namedRow_eq_none_iff.mpr fun cell _ headed =>
        listed ⟨cell.1, Assoc.mem_of_get? headed⟩
    have nothingThere : Assoc.get? (namedRow other.header moved.cells) text = none := by
      refine get?_namedRow_eq_none_iff.mpr fun cell _ headed => listed ?_
      obtain ⟨column, present, _⟩ := (places cell.1).mp (Assoc.mem_of_get? headed)
      exact ⟨column, present⟩
    rw [nothing, nothingThere]

end

end Sheet

namespace SheetReview

variable {site : Site}

/-- Rows with one number that hold the same under the texts that a schema names are reviewed
alike. -/
theorem ofRow_congr {header otherHeader : List (Nat × String)} {schema : Schema} {now : DateTime}
    {row other : SheetRow} (number : other.number = row.number)
    (same : ∀ text, schema.Names text →
      Assoc.get? (Sheet.namedRow otherHeader other.cells) text =
        Assoc.get? (Sheet.namedRow header row.cells) text) :
    ofRow site otherHeader schema now other = ofRow site header schema now row := by
  have fields : ∀ text, schema.Names text →
      (Sheet.namedRow otherHeader other.cells).field text =
        (Sheet.namedRow header row.cells).field text := by
    intro text named
    rw [Row.field, same text named, Row.field]
  have checked : checkRow site (Sheet.namedRow otherHeader other.cells) schema row.number now =
      checkRow site (Sheet.namedRow header row.cells) schema row.number now := by
    apply checkRow_congr
    intro entry present
    exact checkColumn_congr (fields entry.1 (.inr (List.mem_map_of_mem present)))
  have mapped : mapRow site (Sheet.namedRow otherHeader other.cells) schema =
      mapRow site (Sheet.namedRow header row.cells) schema :=
    mapRow_congr fun column required => fields column (.inl required)
  rw [ofRow, ofRow, number, checked, mapped]

/-- Corresponding sheets are reviewed alike. -/
theorem ofSheet_of_corresponds {sheet other : Sheet} {schema : Schema} {move : Nat → Nat}
    (corresponds : sheet.Corresponds schema move other) (keyed : sheet.IsKeyed)
    (otherKeyed : other.IsKeyed) (distinct : (Assoc.values sheet.header).Nodup) (now : DateTime) :
    ofSheet site other schema now = ofSheet site sheet schema now := by
  have rows : sheet.rows.mapM (ofRow site sheet.header schema now) =
      other.rows.mapM (ofRow site other.header schema now) := by
    apply Outcome.mapM_eq_of_forall₂
    refine (Outcome.forall₂_and keyed.cells otherKeyed.cells corresponds.rows).imp ?_
    rintro row moved ⟨once, movedOnce, number, cells⟩
    exact (ofRow_congr number fun text named =>
      corresponds.get?_namedRow_eq keyed otherKeyed distinct once movedOnce cells named).symm
  unfold ofSheet
  rw [corresponds.missingColumns_eq, corresponds.name, rows]

/-- The review of a sheet whose header texts are distinct stays the same when its columns are
renumbered and listed in another order. It also stays the same when columns that the schema does not
name, or cells without a header, are added, removed or changed. -/
theorem ofSheet_of_rearranged {sheet : Sheet} (keyed : sheet.IsKeyed)
    (distinct : (Assoc.values sheet.header).Nodup) (site : Site) (schema : Schema)
    (now : DateTime) :
    (∀ (renumber : Nat → Nat) (other : Sheet), Function.Injective renumber →
      sheet.IsRenumbered renumber other →
        ofSheet site other schema now = ofSheet site sheet schema now) ∧
      ∀ other : Sheet, other.IsKeyed → sheet.AgreesOnNamed schema other →
        ofSheet site other schema now = ofSheet site sheet schema now := by
  constructor
  · intro renumber other injective renumbered
    exact ofSheet_of_corresponds (renumbered.corresponds injective keyed schema) keyed
      (renumbered.isKeyed injective keyed) distinct now
  · intro other otherKeyed agrees
    exact ofSheet_of_corresponds agrees.corresponds keyed otherKeyed distinct now

/-- A sheet with a column that the built-in schema does not name. -/
def sheetOfExtra : Sheet :=
  ⟨"S", [(0, "Name"), (1, "Amount"), (2, "Extra"), (3, "Date"), (4, "Verified")],
    [⟨2, [(0, .text "Ann"), (1, .int 5), (2, .bool true), (3, .text "2024-01-15")]⟩]⟩

/-- That sheet with its columns moved to the right and listed from the last. -/
def sheetOfMovedExtra : Sheet :=
  ⟨"S", [(7, "Verified"), (6, "Date"), (5, "Extra"), (4, "Amount"), (3, "Name")],
    [⟨2, [(6, .text "2024-01-15"), (5, .bool true), (4, .int 5), (3, .text "Ann")]⟩]⟩

/-- That sheet with another header above the extra column, which has no cell, and a cell without a
header. -/
def sheetOfNote : Sheet :=
  ⟨"S", [(0, "Name"), (1, "Amount"), (2, "Note"), (3, "Date"), (4, "Verified")],
    [⟨2, [(9, .null), (0, .text "Ann"), (1, .int 5), (3, .text "2024-01-15")]⟩]⟩

/-- The day on which these sheets are reviewed. -/
def dayOfExtra : DateTime := .atMidnight ⟨2024, 1, 18, by decide⟩

/-- A site with a clock of universal time. -/
def siteOfExtra : Site := .universal dayOfExtra

theorem ofSheet_of_moved_and_changed_extra :
    sheetOfExtra.IsKeyed ∧ (Assoc.values sheetOfExtra.header).Nodup ∧
      Function.Injective (fun column => column + 3) ∧
      sheetOfExtra.IsRenumbered (fun column => column + 3) sheetOfMovedExtra ∧
      sheetOfNote.IsKeyed ∧ sheetOfExtra.AgreesOnNamed .builtin sheetOfNote ∧
      ofSheet siteOfExtra sheetOfMovedExtra .builtin dayOfExtra =
        ofSheet siteOfExtra sheetOfExtra .builtin dayOfExtra ∧
      ofSheet siteOfExtra sheetOfNote .builtin dayOfExtra =
        ofSheet siteOfExtra sheetOfExtra .builtin dayOfExtra := by
  have keyed : sheetOfExtra.IsKeyed := ⟨by decide, by decide⟩
  have distinct : (Assoc.values sheetOfExtra.header).Nodup := by decide
  have injective : Function.Injective (fun column => column + 3) :=
    fun _ _ same => Nat.add_right_cancel same
  have renumbered : sheetOfExtra.IsRenumbered (fun column => column + 3) sheetOfMovedExtra := by
    refine ⟨rfl, ?_, .cons ⟨rfl, ?_⟩ .nil⟩
    · exact List.reverse_perm [(3, "Name"), (4, "Amount"), (5, "Extra"), (6, "Date"),
        (7, "Verified")]
    · exact List.reverse_perm [(3, Value.text "Ann"), (4, .int 5), (5, .bool true),
        (6, .text "2024-01-15")]
  have noteKeyed : sheetOfNote.IsKeyed := ⟨by decide, by decide⟩
  have unnamed : ∀ text, Schema.builtin.Names text → text ≠ "Extra" ∧ text ≠ "Note" := by
    rintro text (mapped | ruled)
    · exact (by decide : ∀ column ∈ Schema.builtin.requiredColumns,
        column ≠ "Extra" ∧ column ≠ "Note") text mapped
    · exact (by decide : ∀ column ∈ Assoc.keys Schema.builtin.rules,
        column ≠ "Extra" ∧ column ≠ "Note") text ruled
  have agrees : sheetOfExtra.AgreesOnNamed .builtin sheetOfNote := by
    refine ⟨rfl, fun column text named => ?_, .cons ⟨rfl, fun column text named present => ?_⟩ .nil⟩
    · simp [sheetOfExtra, sheetOfNote, unnamed text named]
    · have places : column = 0 ∨ column = 1 ∨ column = 3 ∨ column = 4 := by
        simp [sheetOfExtra, unnamed text named] at present
        omega
      rcases places with rfl | rfl | rfl | rfl <;> rfl
  obtain ⟨moved, changed⟩ := ofSheet_of_rearranged keyed distinct siteOfExtra .builtin
    dayOfExtra
  exact ⟨keyed, distinct, injective, renumbered, noteKeyed, agrees,
    moved _ _ injective renumbered, changed _ noteKeyed agrees⟩

end SheetReview

end SheetIntake
