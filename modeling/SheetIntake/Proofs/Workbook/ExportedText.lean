import SheetIntake.Proofs.Workbook.GivenTitle
import SheetIntake.Proofs.Workbook.TextCell

/-!
# Texts that are exported

A sheet is written in its turn to one worksheet, whose title `Title.inTurn` gives. Its cells stand
over whatever was written there before, and stay there unless a later sheet is written over the same
worksheet. So every text of its header and of its columns is read back as a text in its cell is:
`exported_texts_read_back` says when it is the same text, and that a formula leaves its cell blank.
-/

namespace SheetIntake.Workbook

/-- The title of the worksheet that a sheet is written to, after sheets with other names. -/
def Title.inTurn (earlier : List String) (name : String) : String :=
  if name ∈ ofNames earlier then name else ofNew (ofNames earlier) name

namespace Writing

open Grid Title

/-- The value at a position of rows of values. -/
def valueAt? (rows : List (List Value)) (row column : Nat) : Option Value :=
  (rows[row]?).bind fun values => values[column]?

/-- Rows of values have those of others at their positions. -/
def Covers (above rows : List (List Value)) : Prop :=
  ∀ {row column value}, valueAt? above row column = some value →
    valueAt? rows row column = some value

theorem getElem?_overlayRow {below above : List Value} {column : Nat} {value : Value}
    (held : above[column]? = some value) : (overlayRow below above)[column]? = some value := by
  obtain ⟨inside, _⟩ := List.getElem?_eq_some_iff.mp held
  rw [overlayRow, List.getElem?_append_left inside, held]

/-- What is written over rows stands at its positions. -/
theorem covers_overlay (below above : List (List Value)) : Covers above (overlay below above) := by
  intro row column value held
  induction below generalizing above row with
  | nil =>
    cases above with
    | nil => exact held
    | cons _ _ => exact held
  | cons first below inductionHypothesis =>
    cases above with
    | nil => cases held
    | cons second above =>
      cases row with
      | zero => exact getElem?_overlayRow held
      | succ row => exact inductionHypothesis above held

/-- A worksheet that a sheet is written to in its turn has the cells of the sheet. -/
theorem exists_of_own_turn {data : Selection.SheetRows} {before next : List Grid}
    {earlier : List String} {name : String} (titles : before.map Grid.title = ofNames earlier)
    (wrote : writeSheet data before name = .ok next) :
    ∃ rows, cells (Assoc.get? data name).join = .ok rows ∧
      ∃ grid ∈ next, grid.title = inTurn earlier name ∧ Covers rows grid.rows := by
  obtain ⟨rows, made, ⟨taken, rfl⟩ | ⟨new, rfl⟩⟩ := writeSheet_cases wrote
  · obtain ⟨old, present, same⟩ := List.mem_map.mp taken
    refine ⟨rows, made, ⟨name, overlay old.rows rows⟩, ?_, ?_, covers_overlay _ _⟩
    · exact List.mem_map.mpr ⟨old, present, if_pos same⟩
    · rw [inTurn, ← titles, if_pos taken]
  · refine ⟨rows, made, ⟨ofNew (before.map Grid.title) name, rows⟩, by simp, ?_, id⟩
    rw [inTurn, ← titles, if_neg new]

/-- A worksheet stays as it is while a sheet with another name than its title is written. -/
theorem mem_of_writeSheet {data : Selection.SheetRows} {before next : List Grid} {name : String}
    {grid : Grid} (present : grid ∈ before) (other : grid.title ≠ name)
    (wrote : writeSheet data before name = .ok next) : grid ∈ next := by
  obtain ⟨rows, _, ⟨_, rfl⟩ | ⟨_, rfl⟩⟩ := writeSheet_cases wrote
  · exact List.mem_map.mpr ⟨grid, present, if_neg other⟩
  · exact List.mem_append_left _ present

/-- A worksheet stays as it is if its title is not the name of any sheet that is written later. -/
theorem mem_of_writeSheets {data : Selection.SheetRows} {names : List String}
    {before result : List Grid} {grid : Grid} (present : grid ∈ before)
    (other : grid.title ∉ names) (wrote : names.foldlM (writeSheet data) before = .ok result) :
    grid ∈ result := by
  induction names generalizing before with
  | nil =>
    cases wrote
    exact present
  | cons name later inductionHypothesis =>
    rw [List.foldlM_cons] at wrote
    obtain ⟨next, wroteHere, wroteLater⟩ := Outcome.bind_eq_ok_iff.mp wrote
    obtain ⟨differs, free⟩ := not_or.mp (mt List.mem_cons.mpr other)
    exact inductionHypothesis (mem_of_writeSheet present differs wroteHere) free wroteLater

/-- Each cell of a worksheet is stored in its place. -/
theorem exists_of_stored {grid held : Grid} (stored : grid.stored = .ok held) {row column : Nat}
    {value : Value} (here : valueAt? grid.rows row column = some value) :
    ∃ kept, held.cell? row column = some kept ∧ store value = .ok kept := by
  obtain ⟨rows, rowsStored, last⟩ := Outcome.bind_eq_ok_iff.mp stored
  cases last
  have related : Option.Rel (fun value kept => store value = .ok kept)
      (valueAt? grid.rows row column) (valueAt? rows row column) :=
    Outcome.rel_bind (Outcome.rel_getElem? (Outcome.mapM_eq_ok_iff.mp rowsStored) row)
      fun _ _ rowStored => Outcome.rel_getElem? (Outcome.mapM_eq_ok_iff.mp rowStored) column
  rw [here] at related
  cases found : valueAt? rows row column with
  | none =>
    rw [found] at related
    cases related
  | some kept =>
    rw [found] at related
    cases related with
    | some isStored => exact ⟨kept, found, isStored⟩

/-- The cells of rows have the form of the values that belong at their positions. -/
theorem valueAt?_of_cells {rows : List Row} {made : List (List Value)}
    (filled : cells (some rows) = .ok made) {row column : Nat} {value : Value}
    (shown : shownAt rows row column = some value) :
    valueAt? made row column = some (cellForm value) := by
  cases rows with
  | nil => cases row <;> cases shown
  | cons first rest =>
    have inTable := getElem?_table (first :: rest) row column
    rw [shown] at inTable
    obtain ⟨values, inRows, inRow⟩ := Option.bind_eq_some_iff.mp inTable
    rw [cells_of_rows filled, valueAt?, List.getElem?_map, inRows]
    exact (List.getElem?_map ..).trans (congrArg (Option.map cellForm) inRow)

/-- A worksheet has, at each position where a value of the rows belongs, a cell that holds it. -/
def Displays (rows : List Row) (grid : Grid) : Prop :=
  ∀ {row column value}, shownAt rows row column = some value →
    ∃ held, grid.cell? row column = some held ∧ IsHeldAs value held

/-- The rows of a sheet are displayed by the worksheet that the sheet is written to, unless a later
sheet is written over it. -/
theorem exists_displays {data : Selection.SheetRows} {names earlier later : List String}
    {name : String} {rows : List Row} {grids : List Grid} (wrote : write data names = .ok grids)
    (turn : writtenNames names.eraseDups = earlier ++ name :: later)
    (given : (Assoc.get? data name).join = some rows) (stays : inTurn earlier name ∉ later) :
    ∃ grid ∈ grids, grid.title = inTurn earlier name ∧ Displays rows grid := by
  unfold write at wrote
  dsimp only at wrote
  rw [Assoc.distinct_eq_eraseDups] at wrote
  obtain ⟨written, wroteAll, storedAll⟩ := Outcome.bind_eq_ok_iff.mp wrote
  change (writtenNames names.eraseDups).foldlM (writeSheet data) [] = .ok written at wroteAll
  -- The run before the turn gives the titles in use, the turn the worksheet, and the rest keeps it.
  rw [turn, List.foldlM_append] at wroteAll
  obtain ⟨before, wroteEarlier, wroteRest⟩ := Outcome.bind_eq_ok_iff.mp wroteAll
  rw [List.foldlM_cons] at wroteRest
  obtain ⟨next, wroteHere, wroteLater⟩ := Outcome.bind_eq_ok_iff.mp wroteRest
  obtain ⟨made, filled, grid, present, titled, covers⟩ :=
    exists_of_own_turn (titles_of_writeSheets wroteEarlier) wroteHere
  have inWritten := mem_of_writeSheets present (titled ▸ stays) wroteLater
  obtain ⟨held, inGrids, stored⟩ :=
    Outcome.exists_matched_of_mem (Outcome.mapM_eq_ok_iff.mp storedAll) inWritten
  refine ⟨held, inGrids, ?_, fun shown => ?_⟩
  · obtain ⟨_, _, last⟩ := Outcome.bind_eq_ok_iff.mp stored
    cases last
    exact titled
  · rw [given] at filled
    exact exists_of_stored stored (covers (valueAt?_of_cells filled shown))

/-- The texts of rows are read back from a sheet: those of the header, which are the keys of the
first row, and those of the cells below it. Row and column are those of the rows that are
written. -/
structure TextsReadBack (rows : List Row) (sheet : Sheet) : Prop where
  header : ∀ {column : Nat} {key : String}, (headerOf rows)[column]? = some key → IsCellText key →
    ReadsBackAs key (Assoc.get? sheet.header column)
  cell : ∀ {index column : Nat} {row : Row} {key text : String}, rows[index]? = some row →
    (headerOf rows)[column]? = some key → row.field key = .text text → IsCellText text →
    ∃ found, sheet.cell? (index + firstDataRowNumber) column = found.map .text ∧
      ReadsBackAs text found

/-- Every text of a sheet that is exported is read back as a text in its cell is: as itself exactly
when it is no formula and has no carriage return, not at all when it is a formula, and otherwise
with its line ends made line feeds. This is so unless a later sheet is written over the
worksheet. -/
theorem exported_texts_read_back {data : Selection.SheetRows} {names earlier later : List String}
    {name : String} {rows : List Row} {grids : List Grid} (wrote : write data names = .ok grids)
    (turn : writtenNames names.eraseDups = earlier ++ name :: later)
    (given : (Assoc.get? data name).join = some rows) (stays : inTurn earlier name ∉ later) :
    ∃ grid ∈ grids, grid.title = inTurn earlier name ∧
      TextsReadBack rows grid.toWorksheet.toSheet := by
  obtain ⟨grid, present, titled, displays⟩ := exists_displays wrote turn given stays
  refine ⟨grid, present, titled, ⟨?_, ?_⟩⟩
  · intro column key inHeader isText
    have shown : shownAt rows 0 column = some (.text key) := by
      rw [shownAt, inHeader]
      rfl
    obtain ⟨held, here, isHeld⟩ := displays shown
    exact header_of_held isText isHeld here
  · intro index column row key text inRows inHeader isField isText
    have shown : shownAt rows (index + 1) column = some (.text text) := by
      rw [shownAt, inRows, inHeader, ← isField]
      rfl
    obtain ⟨held, here, isHeld⟩ := displays shown
    exact cell_of_held isText isHeld here

/-- A row with a formula for a key and for a value, a text of two lines and one of digits. -/
def trickyRow : Row :=
  [("=a", .text "=1+1"), ("b", .text "x\ry"), ("c", .text "12")]

theorem exported_tricky_texts_read_back :
    writtenNames ["S"].eraseDups = [] ++ "S" :: [] ∧ inTurn [] "S" ∉ ([] : List String) ∧
      ∃ grids grid, write [("S", some [trickyRow])] ["S"] = .ok grids ∧ grid ∈ grids ∧
        Assoc.get? grid.toWorksheet.toSheet.header 0 = none ∧
        Assoc.get? grid.toWorksheet.toSheet.header 1 = some "b" ∧
        grid.toWorksheet.toSheet.cell? 2 0 = none ∧
        grid.toWorksheet.toSheet.cell? 2 1 = some (.text "x\ny") ∧
        grid.toWorksheet.toSheet.cell? 2 2 = some (.text "12") := by
  have answered : (write [("S", some [trickyRow])] ["S"]).toOption.isSome = true := by
    decide +kernel
  obtain ⟨grids, found⟩ := Option.isSome_iff_exists.mp answered
  have wrote := Outcome.eq_ok_of_toOption found
  have turn : writtenNames ["S"].eraseDups = [] ++ "S" :: [] := by decide
  have stays : inTurn [] "S" ∉ ([] : List String) := List.not_mem_nil
  obtain ⟨grid, present, _, readBack⟩ := exported_texts_read_back wrote turn rfl stays
  have row : [trickyRow][0]? = some trickyRow := rfl
  have first : (headerOf [trickyRow])[0]? = some "=a" := rfl
  have second : (headerOf [trickyRow])[1]? = some "b" := rfl
  have third : (headerOf [trickyRow])[2]? = some "c" := rfl
  have texts : ∀ text ∈ ["=a", "b", "=1+1", "x\ry", "12"], IsCellText text := by
    intro text listed
    refine ⟨?_, ?_, ?_⟩ <;> revert text <;> decide
  refine ⟨turn, stays, grids, grid, wrote, present, ?_, ?_, ?_, ?_, ?_⟩
  · exact (readBack.header first (texts "=a" (by decide))).formula (by decide)
  · exact (readBack.header second (texts "b" (by decide))).unified (by decide)
  · obtain ⟨kept, cell, text⟩ := readBack.cell row first rfl (texts "=1+1" (by decide))
    rw [text.formula (by decide)] at cell
    exact cell
  · obtain ⟨kept, cell, text⟩ := readBack.cell row second rfl (texts "x\ry" (by decide))
    rw [text.unified (by decide)] at cell
    exact cell
  · obtain ⟨kept, cell, text⟩ := readBack.cell row third rfl (texts "12" (by decide))
    rw [text.unified (by decide)] at cell
    exact cell

end Writing

end SheetIntake.Workbook
