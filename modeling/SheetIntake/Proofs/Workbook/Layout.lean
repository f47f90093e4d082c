import SheetIntake.Proofs.Sheet.HeaderColumn
import SheetIntake.Proofs.Workbook.Cells

/-!
# What stands where in a worksheet

A worksheet is seen as cells by row and column. In the worksheets of a file the cells of each row
ascend, so that every row and column has at most one cell, and the header and the data rows of a
sheet can be said in terms of cells alone. `mem_dataNumbers_iff` says which rows are data rows, and
`get?_record_iff` what a data row holds under a header: of several columns with one header, the last
in which the row has a cell.
-/

namespace SheetIntake.Workbook

/-- Whether the columns of a row ascend. -/
def ColumnsAscend {α : Type} (cells : List (Nat × α)) : Prop :=
  cells.Pairwise fun earlier later => earlier.1 < later.1

namespace ColumnsAscend

variable {α β : Type}

/-- Cells that ascend are in different columns. -/
theorem nodup_keys {cells : List (Nat × α)} (ascend : ColumnsAscend cells) :
    (Assoc.keys cells).Nodup := by
  rw [Assoc.keys, List.Nodup, List.pairwise_map]
  exact ascend.imp fun before => Nat.ne_of_lt before

/-- Where cells ascend, a cell is found in its column. -/
theorem get?_eq_some_iff {cells : List (Nat × α)} (ascend : ColumnsAscend cells) {column : Nat}
    {value : α} : Assoc.get? cells column = some value ↔ (column, value) ∈ cells :=
  Assoc.get?_eq_some_iff_mem ascend.nodup_keys

/-- Leaving out cells and changing others keeps their order. -/
theorem filterMap {cells : List (Nat × α)} (ascend : ColumnsAscend cells)
    {keep : Nat × α → Option (Nat × β)}
    (sameColumn : ∀ cell kept, keep cell = some kept → kept.1 = cell.1) :
    ColumnsAscend (cells.filterMap keep) := by
  rw [ColumnsAscend, List.pairwise_filterMap]
  refine ascend.imp fun {earlier later} before first firstKept second secondKept => ?_
  rw [sameColumn earlier first firstKept, sameColumn later second secondKept]
  exact before

/-- Cells in different columns ascend once they are sorted. -/
theorem mergeSort {cells : List (Nat × α)} (distinct : (Assoc.keys cells).Nodup) :
    ColumnsAscend (cells.mergeSort fun left right => left.1 ≤ right.1) := by
  have sorted : (cells.mergeSort fun left right => left.1 ≤ right.1).Pairwise
      fun left right => decide (left.1 ≤ right.1) = true := by
    apply List.pairwise_mergeSort
    · intro left middle right first second
      simp only [decide_eq_true_eq] at first second ⊢
      omega
    · intro left right
      simp only [Bool.or_eq_true, decide_eq_true_eq]
      omega
  have different : (cells.mergeSort fun left right => left.1 ≤ right.1).Pairwise
      fun left right => left.1 ≠ right.1 := by
    rw [← List.pairwise_map]
    exact ((List.mergeSort_perm cells _).map Prod.fst).nodup_iff.mpr distinct
  refine (sorted.and different).imp fun {left right} ⟨notAfter, differ⟩ => ?_
  rw [decide_eq_true_eq] at notAfter
  omega

end ColumnsAscend

/-- The places of the items of a list ascend. -/
theorem pairwise_places {α : Type} (items : List α) :
    items.zipIdx.Pairwise fun earlier later => earlier.2 < later.2 := by
  rw [← List.pairwise_map, List.zipIdx_map_snd]
  exact List.pairwise_lt_range'

/-- The cells of a row of a grid ascend. -/
theorem Grid.columnsAscend_cellsOf (values : List Value) : ColumnsAscend (cellsOf values) := by
  rw [ColumnsAscend, cellsOf, List.pairwise_filterMap]
  refine (pairwise_places values).imp
    fun {earlier later} before first firstKept second secondKept => ?_
  dsimp only at firstKept secondKept
  split at firstKept
  · cases firstKept
  · split at secondKept
    · cases secondKept
    · cases firstKept
      cases secondKept
      exact before

/-- The cells that are kept of a row ascend. -/
theorem Rows.columnsAscend_keptCells (bounds : Bounds) (cells : List (Nat × Value)) :
    ColumnsAscend (keptCells bounds cells) := by
  unfold keptCells
  dsimp only
  apply ColumnsAscend.mergeSort
  have different : (Assoc.ofPairs cells).Pairwise fun left right => left.1 ≠ right.1 := by
    rw [← List.pairwise_map]
    exact Assoc.nodup_keys_ofPairs cells
  rw [Assoc.keys, List.Nodup, List.pairwise_map, List.pairwise_filterMap]
  refine different.imp fun {left right} differ first firstKept second secondKept => ?_
  -- Counting columns from zero keeps them apart, because those that are kept are at least one.
  split at firstKept
  · cases firstKept
  · split at secondKept
    · cases secondKept
    · split at firstKept
      · split at secondKept
        · cases firstKept
          cases secondKept
          dsimp only
          omega
        · cases secondKept
      · cases firstKept

namespace Worksheet

/-- The cells of the row with a number. -/
def cellsAt (worksheet : Worksheet) (row : Int) : List (Nat × Value) :=
  ((worksheet.rows.find? fun held => held.number == row).map SheetRow.cells).getD []

/-- The cell in a row and a column. -/
def cell? (worksheet : Worksheet) (row : Int) (column : Nat) : Option Value :=
  Assoc.get? (worksheet.cellsAt row) column

/-- The text of the header above a column. A blank cell is no header. -/
def headerText? (worksheet : Worksheet) (column : Nat) : Option String :=
  ((worksheet.cell? headerRowNumber column).filter fun value => !value.isBlankCell).map
    Value.plainText

/-- The numbers of the data rows. -/
def dataNumbers (worksheet : Worksheet) : List Int :=
  worksheet.dataRows.map SheetRow.number

/-- What the row with a number holds under the headers. -/
def record (worksheet : Worksheet) (row : Int) : Row :=
  Sheet.namedRow worksheet.header (worksheet.cellsAt row)

/-- Whether the cells of every row ascend. -/
def IsOrdered (worksheet : Worksheet) : Prop :=
  ∀ row ∈ worksheet.rows, ColumnsAscend row.cells

theorem headerCells_eq_cellsAt (worksheet : Worksheet) :
    worksheet.headerCells = worksheet.cellsAt headerRowNumber := by
  unfold headerCells cellsAt
  cases worksheet.rows.find? fun row => row.number == (headerRowNumber : Int) <;> rfl

/-- A row is found by its number. -/
theorem find?_number {rows : List SheetRow} (ascending : Ascending rows) {row : SheetRow}
    (present : row ∈ rows) : rows.find? (fun held => held.number == row.number) = some row := by
  induction rows with
  | nil => cases present
  | cons first rest inductionHypothesis =>
    obtain ⟨before, restAscending⟩ := List.pairwise_cons.mp ascending
    rw [List.find?_cons]
    rcases List.mem_cons.mp present with rfl | later
    · rw [beq_self_eq_true]
    · have differs : (first.number == row.number) = false := by
        have smaller := before row later
        rw [beq_eq_false_iff_ne]
        omega
      rw [differs]
      exact inductionHypothesis restAscending later

theorem cellsAt_number {worksheet : Worksheet} {row : SheetRow}
    (present : row ∈ worksheet.rows) : worksheet.cellsAt row.number = row.cells := by
  rw [cellsAt, find?_number worksheet.ascending present]
  rfl

/-- A row with a cell is a row of the worksheet. -/
theorem exists_of_cell? {worksheet : Worksheet} {number : Int} {column : Nat} {value : Value}
    (found : worksheet.cell? number column = some value) :
    ∃ row ∈ worksheet.rows, row.number = number := by
  unfold cell? cellsAt at found
  cases held : worksheet.rows.find? fun row => row.number == number with
  | none =>
    rw [held] at found
    cases found
  | some row => exact ⟨row, List.mem_of_find?_eq_some held, by simpa using List.find?_some held⟩

section

variable {worksheet : Worksheet} (ordered : worksheet.IsOrdered)

include ordered

/-- The cells at a number ascend, also where there is no row. -/
theorem IsOrdered.columnsAscend_cellsAt (row : Int) : ColumnsAscend (worksheet.cellsAt row) := by
  unfold cellsAt
  cases found : worksheet.rows.find? fun held => held.number == row with
  | none => exact .nil
  | some held => exact ordered held (List.mem_of_find?_eq_some found)

theorem IsOrdered.columnsAscend_header : ColumnsAscend worksheet.header := by
  rw [header, headerCells_eq_cellsAt]
  refine (ordered.columnsAscend_cellsAt headerRowNumber).filterMap fun cell kept shown => ?_
  dsimp only at shown
  split at shown
  · cases shown
  · cases shown
    rfl

/-- The header of a sheet is what stands in the first row above its columns. -/
theorem get?_header (column : Nat) :
    Assoc.get? worksheet.header column = worksheet.headerText? column := by
  have ascend := ordered.columnsAscend_cellsAt headerRowNumber
  ext text
  rw [ordered.columnsAscend_header.get?_eq_some_iff, headerText?, cell?, header,
    headerCells_eq_cellsAt, List.mem_filterMap]
  simp only [Option.map_eq_some_iff, Option.filter_eq_some_iff, ascend.get?_eq_some_iff]
  constructor
  · rintro ⟨⟨place, value⟩, present, kept⟩
    dsimp only at kept
    split at kept
    · cases kept
    · next shown =>
      cases kept
      exact ⟨value, ⟨present, by simpa using shown⟩, rfl⟩
  · rintro ⟨value, ⟨present, shown⟩, rfl⟩
    rw [Bool.not_eq_true'] at shown
    exact ⟨(column, value), present, by simp [shown]⟩

/-- The data rows are the rows after the first in which some cell is not blank. -/
theorem mem_dataNumbers_iff {number : Int} :
    number ∈ worksheet.dataNumbers ↔
      (firstDataRowNumber : Int) ≤ number ∧
        ∃ column value, worksheet.cell? number column = some value ∧
          value.isBlankCell = false := by
  have afterHeader : (headerRowNumber : Int) < number ↔ (firstDataRowNumber : Int) ≤ number := by
    unfold firstDataRowNumber
    omega
  rw [dataNumbers, List.mem_map, ← afterHeader]
  constructor
  · rintro ⟨row, isData, rfl⟩
    obtain ⟨present, held⟩ := List.mem_filter.mp isData
    rw [Bool.and_eq_true, decide_eq_true_eq, holdsData, List.any_eq_true] at held
    obtain ⟨later, ⟨column, value⟩, inRow, shown⟩ := held
    refine ⟨later, column, value, ?_, by simpa using shown⟩
    rw [cell?, cellsAt_number present, (ordered row present).get?_eq_some_iff]
    exact inRow
  · rintro ⟨later, column, value, found, shown⟩
    obtain ⟨row, present, rfl⟩ := exists_of_cell? found
    rw [cell?, cellsAt_number present, (ordered row present).get?_eq_some_iff] at found
    refine ⟨row, List.mem_filter.mpr ⟨present, ?_⟩, rfl⟩
    rw [Bool.and_eq_true, decide_eq_true_eq, holdsData, List.any_eq_true]
    exact ⟨later, (column, value), found, by rw [shown]; rfl⟩

end

/-- The numbers of the data rows ascend. -/
theorem pairwise_dataNumbers (worksheet : Worksheet) :
    worksheet.dataNumbers.Pairwise fun earlier later => earlier < later := by
  rw [dataNumbers, List.pairwise_map]
  exact worksheet.ascending.filter _

end Worksheet

/-- In cells that ascend, the last cell under a header is the one under it with no such cell in a
later column. -/
theorem ColumnsAscend.lastUnder_iff {header : List (Nat × String)} {cells : List (Nat × Value)}
    (ascend : ColumnsAscend cells) {name : String} {cell : Nat × Value} :
    Sheet.LastUnder header name cells cell ↔
      cell ∈ cells ∧ Assoc.get? header cell.1 = some name ∧
        ∀ later ∈ cells, cell.1 < later.1 → Assoc.get? header later.1 ≠ some name := by
  induction cells with
  | nil => exact iff_of_false (by rintro ⟨⟩) fun held => nomatch held.1
  | cons first rest inductionHypothesis =>
    obtain ⟨before, restAscend⟩ := List.pairwise_cons.mp ascend
    constructor
    · intro last
      cases last with
      | here headed only =>
        refine ⟨List.mem_cons_self, headed, fun later present after => ?_⟩
        rcases List.mem_cons.mp present with rfl | inRest
        · exact absurd after (Nat.lt_irrefl _)
        · exact only later inRest
      | later last =>
        obtain ⟨present, headed, none⟩ := (inductionHypothesis restAscend).mp last
        refine ⟨List.mem_cons_of_mem _ present, headed, fun later laterPresent after => ?_⟩
        rcases List.mem_cons.mp laterPresent with rfl | inRest
        · exact absurd (before cell present) (Nat.lt_asymm after)
        · exact none later inRest after
    · rintro ⟨present, headed, none⟩
      rcases List.mem_cons.mp present with rfl | inRest
      · exact .here headed fun later laterPresent =>
          none later (List.mem_cons_of_mem _ laterPresent) (before later laterPresent)
      · exact .later ((inductionHypothesis restAscend).mpr ⟨inRest, headed,
          fun later laterPresent => none later (List.mem_cons_of_mem _ laterPresent)⟩)

/-- What a row of a worksheet holds under a header is the last of its cells under that header. -/
theorem Worksheet.get?_record_iff {worksheet : Worksheet} (ordered : worksheet.IsOrdered)
    {number : Int} {name : String} {value : Value} :
    Assoc.get? (worksheet.record number) name = some value ↔
      ∃ column, worksheet.headerText? column = some name ∧
        worksheet.cell? number column = some value ∧
        ∀ later, column < later → worksheet.headerText? later = some name →
          worksheet.cell? number later = none := by
  have ascend := ordered.columnsAscend_cellsAt number
  rw [record, Sheet.get?_namedRow_eq_some_iff]
  simp only [ascend.lastUnder_iff, get?_header ordered]
  constructor
  · rintro ⟨column, present, above, none⟩
    refine ⟨column, above, ascend.get?_eq_some_iff.mpr present, fun later after sameHeader => ?_⟩
    by_contra found
    obtain ⟨other, held⟩ := Option.ne_none_iff_exists'.mp found
    exact none (later, other) (ascend.get?_eq_some_iff.mp held) after sameHeader
  · rintro ⟨column, above, found, none⟩
    refine ⟨column, ascend.get?_eq_some_iff.mp found, above, fun later present after same => ?_⟩
    have held : worksheet.cell? number later.1 = some later.2 :=
      ascend.get?_eq_some_iff.mpr present
    rw [none later.1 after same] at held
    cases held

/-- In the worksheets of a file the cells of every row ascend. -/
theorem File.isOrdered_of_mem_worksheets {file : File} {worksheets : List Worksheet}
    (read : file.worksheets = .ok worksheets) {worksheet : Worksheet}
    (present : worksheet ∈ worksheets) : worksheet.IsOrdered := by
  intro row inRows
  unfold File.worksheets File.opened at read
  split at read
  · cases read
  · obtain ⟨_, _, _, _, _, kept⟩ := exists_of_mem_package read present inRows
    rw [kept]
    exact Rows.columnsAscend_keptCells _ _
  · obtain ⟨_, held, _⟩ := exists_of_mem_grids (worksheetsOfGrids_of_opened read) present inRows
    rw [held]
    exact Grid.columnsAscend_cellsOf _

/-- The sheets of a file give each column one header and each row one cell in a column. -/
theorem File.isKeyed_of_mem_sheets {file : File} {sheets : List Sheet}
    (read : file.sheets = .ok sheets) {sheet : Sheet} (present : sheet ∈ sheets) :
    sheet.IsKeyed := by
  obtain ⟨worksheets, worksheetsRead, rfl⟩ := Outcome.map_eq_ok_iff.mp read
  obtain ⟨worksheet, inFile, rfl⟩ := List.mem_map.mp present
  have ordered := isOrdered_of_mem_worksheets worksheetsRead inFile
  constructor
  · exact ordered.columnsAscend_header.nodup_keys
  · intro row inRows
    exact (ordered row (List.mem_of_mem_filter inRows)).nodup_keys

end SheetIntake.Workbook
