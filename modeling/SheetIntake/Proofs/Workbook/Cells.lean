import SheetIntake.Proofs.Decimal.NotANumber
import SheetIntake.Proofs.Workbook.Opened
import SheetIntake.Workbook.File

/-!
# What the cells of a file hold

The floats in the cells of a file are numbers, whether the file is a package or was written from
grids, because a text that is read as a float has a point or an exponent in it. The data rows of its
sheets have numbers after that of the header.
-/

namespace SheetIntake

open Calendar Decimal Workbook

/-- Whether a value is a float that is not a number. -/
def Value.isUndefined : Value → Bool
  | .float value => isNotANumber value
  | _ => false

/-- A data row after the header whose floats are numbers. -/
structure SheetRow.Sound (row : SheetRow) : Prop where
  after_header : (firstDataRowNumber : Int) ≤ row.number
  defined : ∀ cell ∈ row.cells, cell.2.isUndefined = false

namespace Workbook

/-- The number of a cell is defined. -/
theorem CellText.isUndefined_readNumber {text : String} {value : Value}
    (read : readNumber text = .ok value) : value.isUndefined = false := by
  unfold readNumber at read
  split at read
  · next marked =>
    obtain ⟨number, numberRead, rfl⟩ := Outcome.map_eq_ok_iff.mp read
    obtain ⟨character, present, mark⟩ := List.any_eq_true.mp marked
    unfold orBadValue at numberRead
    split at numberRead
    · next found =>
      cases numberRead
      exact isNotANumber_of_readGroupedFloat? found mark present
    · cases numberRead
  · obtain ⟨number, _, rfl⟩ := Outcome.map_eq_ok_iff.mp read
    rfl

theorem isUndefined_dateOfSerial (epoch : Epoch) (serial : Float) :
    (dateOfSerial epoch serial).isUndefined = false := by
  unfold dateOfSerial
  cases found : momentOfSerial? epoch serial with
  | none => rfl
  | some value =>
    obtain ⟨⟨days, part⟩, _, afterSplit⟩ := Option.bind_eq_some_iff.mp found
    obtain ⟨milliseconds, _, afterPart⟩ := Option.bind_eq_some_iff.mp afterSplit
    dsimp only at afterPart
    split at afterPart
    · cases afterPart
      rfl
    · obtain ⟨clock, _, last⟩ := Option.bind_eq_some_iff.mp afterPart
      cases last
      rfl

/-- The meaning of a number leaves it defined. -/
theorem NumberMeaning.isUndefined_apply (meaning : NumberMeaning) (epoch : Epoch) {number : Value}
    (defined : number.isUndefined = false) : (meaning.apply epoch number).isUndefined = false := by
  unfold apply
  dsimp only
  split
  · exact defined
  · exact isUndefined_dateOfSerial epoch _
  · unfold spanOfSerial
    split
    · rfl
    · rfl
  · rfl
  · rfl

theorem CellText.isUndefined_readClock? {characters : List Char} {value : Value}
    (read : readClock? characters = some (.ok value)) : value.isUndefined = false := by
  unfold readClock? at read
  dsimp only at read
  split at read
  · cases read
  · obtain ⟨_, _, rfl⟩ := Outcome.map_eq_ok_iff.mp (Option.some.inj read)
    rfl
  · obtain ⟨_, _, rfl⟩ := Outcome.map_eq_ok_iff.mp (Option.some.inj read)
    rfl
  · obtain ⟨_, _, rfl⟩ := Outcome.map_eq_ok_iff.mp (Option.some.inj read)
    rfl

theorem CellText.isUndefined_readDuration? {characters : List Char} {value : Value}
    (read : readDuration? characters = some (.ok value)) : value.isUndefined = false := by
  obtain ⟨afterFirst, _, more⟩ := Option.bind_eq_some_iff.mp read
  obtain ⟨afterMark, _, parts⟩ := Option.bind_eq_some_iff.mp more
  dsimp only at parts
  split at parts
  · cases parts
  · split at parts
    · split at parts
      · cases parts
        rfl
      · cases parts
    · cases parts

/-- A date, a time or a duration is no float. -/
theorem CellText.isUndefined_readIso {text : String} {value : Value}
    (read : readIso text = .ok value) : value.isUndefined = false := by
  unfold readIso at read
  dsimp only at read
  cases clock : readClock? text.toList with
  | some outcome =>
    rw [clock, Option.some_or, Option.getD_some] at read
    rw [read] at clock
    exact isUndefined_readClock? clock
  | none =>
    rw [clock, Option.none_or] at read
    cases duration : readDuration? text.toList with
    | some outcome =>
      rw [duration, Option.getD_some] at read
      rw [read] at duration
      exact isUndefined_readDuration? duration
    | none =>
      rw [duration] at read
      cases read

/-! ## Packages -/

namespace Rows

/-- The value of a text in a cell is defined whatever its type. -/
theorem isUndefined_readTyped {context : CellContext} {meaning : NumberMeaning}
    {type text : String} {value : Value} (read : readTyped context meaning type text = .ok value) :
    value.isUndefined = false := by
  unfold readTyped at read
  split at read
  · obtain ⟨number, numberRead, rfl⟩ := Outcome.map_eq_ok_iff.mp read
    exact meaning.isUndefined_apply _ (CellText.isUndefined_readNumber numberRead)
  · split at read
    · obtain ⟨place, _, shared⟩ := Outcome.bind_eq_ok_iff.mp read
      split at shared
      · cases shared
        rfl
      · cases shared
    · split at read
      · obtain ⟨_, _, rfl⟩ := Outcome.map_eq_ok_iff.mp read
        rfl
      · split at read
        · exact CellText.isUndefined_readIso read
        · cases read
          rfl

theorem isUndefined_readValue {context : CellContext} {meaning : NumberMeaning}
    {cell : Markup.Element} {value : Value} (read : readValue context meaning cell = .ok value) :
    value.isUndefined = false := by
  unfold readValue at read
  dsimp only at read
  split at read
  · split at read
    · obtain ⟨text, _, rfl⟩ := Outcome.map_eq_ok_iff.mp read
      rfl
    · cases read
      rfl
  · split at read
    · cases read
      rfl
    · exact isUndefined_readTyped read

/-- All cells of a row are defined. -/
theorem isUndefined_of_mem_readCells {context : CellContext} {before : Nat}
    {elements : List Markup.Element} {cells : List (Nat × Value)}
    (read : readCells context before elements = .ok cells) {cell : Nat × Value}
    (present : cell ∈ cells) : cell.2.isUndefined = false := by
  induction elements generalizing before cells with
  | nil =>
    cases read
    cases present
  | cons element rest inductionHypothesis =>
    rw [readCells] at read
    obtain ⟨meaning, _, afterStyle⟩ := Outcome.bind_eq_ok_iff.mp read
    obtain ⟨column, _, afterColumn⟩ := Outcome.bind_eq_ok_iff.mp afterStyle
    obtain ⟨value, valueRead, afterValue⟩ := Outcome.bind_eq_ok_iff.mp afterColumn
    obtain ⟨others, othersRead, last⟩ := Outcome.bind_eq_ok_iff.mp afterValue
    cases last
    rcases List.mem_cons.mp present with rfl | later
    · exact isUndefined_readValue valueRead
    · exact inductionHypothesis othersRead later

/-- The cells that are kept of a row are cells of the row. -/
theorem exists_of_mem_keptCells {bounds : Bounds} {cells : List (Nat × Value)}
    {cell : Nat × Value} (kept : cell ∈ keptCells bounds cells) :
    ∃ other ∈ cells, other.2 = cell.2 := by
  unfold keptCells at kept
  dsimp only at kept
  rw [List.mem_mergeSort, List.mem_filterMap] at kept
  obtain ⟨⟨column, value⟩, inMap, same⟩ := kept
  refine ⟨(column, value), Assoc.mem_of_mem_ofPairs inMap, ?_⟩
  dsimp only at same
  split at same
  · cases same
  · split at same
    · cases same
      rfl
    · cases same

/-- A row that is read has the cells that are kept of those in its element. -/
theorem exists_of_mem_readRows {context : CellContext} {bounds : Bounds} {before : Int}
    {elements : List Markup.Element} {rows : List SheetRow} {complete : Bool}
    (read : readRows context bounds before elements = .ok (rows, complete)) {row : SheetRow}
    (present : row ∈ rows) :
    ∃ element ∈ elements, ∃ cells, readCells context 0 element.children = .ok cells ∧
      row.cells = keptCells bounds cells := by
  induction elements generalizing before rows complete with
  | nil =>
    cases read
    cases present
  | cons element rest inductionHypothesis =>
    rw [readRows] at read
    obtain ⟨number, _, afterNumber⟩ := Outcome.bind_eq_ok_iff.mp read
    obtain ⟨cells, cellsRead, afterCells⟩ := Outcome.bind_eq_ok_iff.mp afterNumber
    split at afterCells
    · cases afterCells
      cases present
    · obtain ⟨⟨others, ended⟩, othersRead, last⟩ := Outcome.bind_eq_ok_iff.mp afterCells
      cases last
      rcases List.mem_cons.mp present with rfl | later
      · exact ⟨element, List.mem_cons_self, cells, cellsRead, rfl⟩
      · obtain ⟨other, inRest, found⟩ := inductionHypothesis othersRead later
        exact ⟨other, List.mem_cons_of_mem _ inRest, found⟩

end Rows

/-! ## Grids -/

namespace Grid

theorem isUndefined_storeFloat {number : Float} {value : Value}
    (stored : storeFloat number = .ok value) : value.isUndefined = false := by
  unfold storeFloat at stored
  split at stored
  · exact CellText.isUndefined_readNumber stored
  · cases stored
    rfl

theorem isUndefined_storeSerial {meaning : NumberMeaning} {serial : Float} {value : Value}
    (stored : storeSerial meaning serial = .ok value) : value.isUndefined = false := by
  obtain ⟨number, numberStored, rfl⟩ := Outcome.map_eq_ok_iff.mp stored
  exact meaning.isUndefined_apply _ (isUndefined_storeFloat numberStored)

theorem isUndefined_storeMoment {moment : Moment} {value : Value}
    (stored : storeMoment moment = .ok value) : value.isUndefined = false := by
  unfold storeMoment at stored
  split at stored
  · cases stored
  · exact isUndefined_storeSerial stored

/-- What a cell holds of a value is defined, also where the value is not. -/
theorem isUndefined_store {value held : Value} (stored : store value = .ok held) :
    held.isUndefined = false := by
  cases value with
  | null => cases stored; rfl
  | bool truth => cases stored; rfl
  | int whole =>
    simp only [store] at stored
    split at stored
    · exact isUndefined_storeFloat stored
    · cases stored
  | float number => exact isUndefined_storeFloat stored
  | text content =>
    cases stored
    split <;> rfl
  | moment moment => exact isUndefined_storeMoment stored
  | stamp moment =>
    cases moment with
    | none => cases stored; rfl
    | some known => exact isUndefined_storeMoment stored
  | date day => exact isUndefined_storeSerial stored
  | time clock => exact isUndefined_storeSerial stored
  | duration span => exact isUndefined_storeSerial stored
  | list items => cases stored
  | record fields => cases stored

/-- The cells that are read back are values of the grid. -/
theorem isUndefined_of_mem_cellsOf {values : List Value}
    (defined : ∀ value ∈ values, value.isUndefined = false) {cell : Nat × Value}
    (present : cell ∈ cellsOf values) : cell.2.isUndefined = false := by
  obtain ⟨⟨value, column⟩, inValues, same⟩ := List.mem_filterMap.mp present
  have held := defined value (List.fst_mem_of_mem_zipIdx inValues)
  dsimp only at same
  split at same
  · cases same
  · cases same
    unfold readBack
    split
    · split <;> rfl
    · exact held

end Grid

/-! ## Files -/

namespace Worksheet

theorem mem_of_mem_ascendingFrom {next : Int} {rows : List SheetRow} {row : SheetRow}
    (kept : row ∈ ascendingFrom next rows) : row ∈ rows := by
  induction rows generalizing next with
  | nil => cases kept
  | cons first rest inductionHypothesis =>
    unfold ascendingFrom at kept
    split at kept
    · rcases List.mem_cons.mp kept with rfl | later
      · exact List.mem_cons_self
      · exact List.mem_cons_of_mem _ (inductionHypothesis later)
    · exact List.mem_cons_of_mem _ (inductionHypothesis kept)

/-- The data rows of a worksheet come after its header. -/
theorem sound_of_mem_toSheet {worksheet : Worksheet}
    (defined : ∀ row ∈ worksheet.rows, ∀ cell ∈ row.cells, cell.2.isUndefined = false)
    {row : SheetRow} (present : row ∈ worksheet.toSheet.rows) : row.Sound := by
  obtain ⟨inRows, isData⟩ := List.mem_filter.mp present
  rw [Bool.and_eq_true, decide_eq_true_eq] at isData
  refine ⟨?_, defined row inRows⟩
  have later : (headerRowNumber : Int) < row.number := isData.1
  unfold firstDataRowNumber
  omega

end Worksheet

namespace File

/-- A package that is opened has the worksheets of its sheets, all in one context. -/
theorem exists_of_package_opened {package : Package} {outcomes : List (Except Failure Worksheet)}
    (opened : package.opened = .ok outcomes) :
    ∃ (context : CellContext) (sheets : List OpenSheet), outcomes = sheets.map fun sheet =>
      (Rows.read context sheet.bounds sheet.document).map (Worksheet.ofRows sheet.title) := by
  unfold Package.opened at opened
  simp only [Outcome.bind_eq_ok_iff] at opened
  obtain ⟨_, -, _, -, _, -, _, -, _, -, _, -, _, -, _, -, sheets, -, last⟩ := opened
  exact ⟨_, sheets, (Except.ok.inj last).symm⟩

/-- A row of a worksheet of a package has the cells that are kept of those in an element. -/
theorem exists_of_mem_package {package : Package} {worksheets : List Worksheet}
    (read : package.opened.worksheets = .ok worksheets) {worksheet : Worksheet}
    (present : worksheet ∈ worksheets) {row : SheetRow} (inRows : row ∈ worksheet.rows) :
    ∃ context bounds elements cells, Rows.readCells context 0 elements = .ok cells ∧
      row.cells = Rows.keptCells bounds cells := by
  obtain ⟨context, sheets, made⟩ :=
    exists_of_package_opened (Opened.worksheets_eq_ok_iff.mp read)
  have isRead : .ok worksheet ∈ worksheets.map (Except.ok (ε := Failure)) :=
    List.mem_map_of_mem present
  rw [made] at isRead
  obtain ⟨sheet, _, sheetRead⟩ := List.mem_map.mp isRead
  obtain ⟨rows, rowsRead, rfl⟩ := Outcome.map_eq_ok_iff.mp sheetRead
  have inPart := Worksheet.mem_of_mem_ascendingFrom inRows
  unfold Rows.read at rowsRead
  obtain ⟨⟨others, complete⟩, othersRead, ended⟩ := Outcome.bind_eq_ok_iff.mp rowsRead
  dsimp only at ended
  split at ended
  · cases ended
  · cases ended
    obtain ⟨element, _, cells, cellsRead, kept⟩ := Rows.exists_of_mem_readRows othersRead inPart
    exact ⟨_, _, _, cells, cellsRead, kept⟩

/-- A row of a worksheet of grids has the cells of a row of values as cells hold them. -/
theorem exists_of_mem_grids {grids : List Grid} {worksheets : List Worksheet}
    (read : worksheetsOfGrids grids = .ok worksheets) {worksheet : Worksheet}
    (present : worksheet ∈ worksheets) {row : SheetRow} (inRows : row ∈ worksheet.rows) :
    ∃ values, row.cells = Grid.cellsOf values ∧
      ∀ value ∈ values, ∃ original, Grid.store original = .ok value := by
  obtain ⟨stored, gridsStored, last⟩ := Outcome.bind_eq_ok_iff.mp read
  cases last
  obtain ⟨⟨title, grid⟩, paired, rfl⟩ := List.mem_map.mp present
  obtain ⟨original, _, gridStored⟩ := Outcome.exists_of_mem_mapM gridsStored
    (List.of_mem_zip paired).2
  obtain ⟨values, rowsStored, made⟩ := Outcome.bind_eq_ok_iff.mp gridStored
  cases made
  have inGrid := Worksheet.mem_of_mem_ascendingFrom inRows
  obtain ⟨⟨held, index⟩, indexed, rfl⟩ := List.mem_map.mp inGrid
  obtain ⟨given, _, rowStored⟩ := Outcome.exists_of_mem_mapM rowsStored
    (List.fst_mem_of_mem_zipIdx indexed)
  refine ⟨held, rfl, fun value inHeld => ?_⟩
  obtain ⟨before, _, valueStored⟩ := Outcome.exists_of_mem_mapM rowStored inHeld
  exact ⟨before, valueStored⟩

/-- The worksheets of a file that was written from grids are those of the grids. -/
theorem worksheetsOfGrids_of_opened {grids : List Grid} {worksheets : List Worksheet}
    (read : Opened.worksheets (((worksheetsOfGrids grids).map fun worksheets =>
      worksheets.map .ok).mapError .other) = .ok worksheets) :
    worksheetsOfGrids grids = .ok worksheets := by
  obtain ⟨others, made, same⟩ := Outcome.map_eq_ok_iff.mp
    (Outcome.mapError_eq_ok_iff.mp (Opened.worksheets_eq_ok_iff.mp read))
  rw [made, List.map_injective_iff.mpr (fun _ _ => Except.ok.inj) same]

/-- The cells of the worksheets of a file are defined. -/
theorem defined_of_worksheets {file : File} {worksheets : List Worksheet}
    (read : file.worksheets = .ok worksheets) {worksheet : Worksheet}
    (present : worksheet ∈ worksheets) {row : SheetRow} (inRows : row ∈ worksheet.rows)
    {cell : Nat × Value} (inRow : cell ∈ row.cells) : cell.2.isUndefined = false := by
  unfold File.worksheets File.opened at read
  split at read
  · cases read
  · obtain ⟨_, _, _, _, cellsRead, kept⟩ := exists_of_mem_package read present inRows
    rw [kept] at inRow
    obtain ⟨other, inCells, same⟩ := Rows.exists_of_mem_keptCells inRow
    rw [← same]
    exact Rows.isUndefined_of_mem_readCells cellsRead inCells
  · obtain ⟨values, held, stored⟩ :=
      exists_of_mem_grids (worksheetsOfGrids_of_opened read) present inRows
    rw [held] at inRow
    refine Grid.isUndefined_of_mem_cellsOf (fun value inValues => ?_) inRow
    obtain ⟨_, valueStored⟩ := stored value inValues
    exact Grid.isUndefined_store valueStored

/-- The data rows of the sheets of a file come after the header and have defined cells. -/
theorem sound_of_mem_sheets {file : File} {sheets : List Sheet} (read : file.sheets = .ok sheets)
    {sheet : Sheet} (present : sheet ∈ sheets) {row : SheetRow} (inRows : row ∈ sheet.rows) :
    row.Sound := by
  obtain ⟨worksheets, worksheetsRead, rfl⟩ := Outcome.map_eq_ok_iff.mp read
  obtain ⟨worksheet, inFile, rfl⟩ := List.mem_map.mp present
  exact Worksheet.sound_of_mem_toSheet
    (fun _ inOther _ inCells => defined_of_worksheets worksheetsRead inFile inOther inCells) inRows

end File

end Workbook

end SheetIntake
