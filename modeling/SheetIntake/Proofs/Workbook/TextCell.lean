import SheetIntake.Markup.Scanner
import SheetIntake.Proofs.Workbook.Layout
import SheetIntake.Proofs.Workbook.Shown

/-!
# Texts in cells

A text that is put into a cell is read back in one of two ways. If it begins with an equals sign and
does not end there, it is a formula and its cell is blank. Otherwise it is a text with its line ends
made line feeds. `ReadsBackAs` says so, and when the text comes back as it was.
-/

namespace SheetIntake

/-- The value in a row and a column of a sheet, if the row is a data row and has it. -/
def Sheet.cell? (sheet : Sheet) (number : Int) (column : Nat) : Option Value :=
  (sheet.rows.find? fun row => row.number == number).bind fun row => Assoc.get? row.cells column

namespace Workbook

open Text

namespace Grid

/-- A text that a cell can hold: it is not empty, not longer than a cell and has only characters
that may stand in a worksheet. -/
structure IsCellText (text : String) : Prop where
  nonempty : text.isEmpty = false
  fits : text.toList.length ≤ textLimit
  legal : (text.toList.all fun character => Markup.isLegalCode character.toNat) = true

/-- A text with its line ends made line feeds. -/
def unifiedText (text : String) : String :=
  String.ofList (unifyLines text.toList)

/-- What is read back of a text in a cell. Nothing is read back of a formula. -/
def keptText? (text : String) : Option String :=
  if isFormula text then none else some (unifiedText text)

/-- A text that is put into a cell is found there as this, or not at all. -/
structure ReadsBackAs (text : String) (found : Option String) : Prop where
  same : found = some text ↔ isFormula text = false ∧ '\r' ∉ text.toList
  formula : isFormula text = true → found = none
  unified : isFormula text = false → found = some (unifiedText text)

/-! ## Line ends -/

theorem return_notMem_unifyLines (characters : List Char) : '\r' ∉ unifyLines characters := by
  induction characters using unifyLines.induct with
  | case1 => exact List.not_mem_nil
  | case2 rest inductionHypothesis =>
    rw [unifyLines, List.mem_cons, not_or]
    exact ⟨by decide, inductionHypothesis⟩
  | case3 rest noFeed inductionHypothesis =>
    rw [unifyLines, List.mem_cons, not_or]
    · exact ⟨by decide, inductionHypothesis⟩
    · exact noFeed
  | case4 character rest noPair noReturn inductionHypothesis =>
    rw [unifyLines, List.mem_cons, not_or]
    · exact ⟨fun same => noReturn same.symm, inductionHypothesis⟩
    · exact noPair
    · exact noReturn

theorem unifyLines_eq_self {characters : List Char} (noReturn : '\r' ∉ characters) :
    unifyLines characters = characters := by
  induction characters with
  | nil => rfl
  | cons character rest inductionHypothesis =>
    obtain ⟨other, later⟩ := not_or.mp (mt List.mem_cons.mpr noReturn)
    rw [unifyLines, inductionHypothesis later]
    · exact fun _ same _ => other same.symm
    · exact fun same => other same.symm

/-- Line ends are left as they are exactly where there is no carriage return. -/
theorem unifiedText_eq_self_iff {text : String} : unifiedText text = text ↔ '\r' ∉ text.toList := by
  constructor
  · intro same
    rw [← same, unifiedText, String.toList_ofList]
    exact return_notMem_unifyLines _
  · intro noReturn
    rw [unifiedText, unifyLines_eq_self noReturn, String.ofList_toList]

theorem unifyLines_eq_nil_iff {characters : List Char} :
    unifyLines characters = [] ↔ characters = [] := by
  unfold unifyLines
  split
  · exact iff_of_true rfl rfl
  · exact iff_of_false nofun nofun
  · exact iff_of_false nofun nofun
  · exact iff_of_false nofun nofun

theorem isFormula_iff {text : String} :
    isFormula text = true ↔ ∃ rest, text.toList = '=' :: rest ∧ rest ≠ [] := by
  unfold isFormula
  split
  · next second rest spelled =>
    exact iff_of_true rfl ⟨second :: rest, spelled, List.cons_ne_nil _ _⟩
  · next other =>
    refine iff_of_false Bool.false_ne_true ?_
    rintro ⟨rest, spelled, some⟩
    obtain ⟨second, others, rfl⟩ := List.exists_cons_of_ne_nil some
    exact other second others spelled

/-- Only a text that begins with an equals sign does so with unified line ends. -/
theorem unifyLines_eq_equals_iff {characters rest : List Char} :
    unifyLines characters = '=' :: rest ↔
      ∃ behind, characters = '=' :: behind ∧ unifyLines behind = rest := by
  constructor
  · intro unified
    unfold unifyLines at unified
    split at unified
    · cases unified
    · cases unified
    · cases unified
    · cases unified
      exact ⟨_, rfl, rfl⟩
  · rintro ⟨behind, rfl, rfl⟩
    rfl

/-- Making line ends line feeds neither makes a formula nor undoes one. -/
theorem isFormula_unifiedText (text : String) : isFormula (unifiedText text) = isFormula text := by
  rw [Bool.eq_iff_iff, isFormula_iff, isFormula_iff, unifiedText, String.toList_ofList]
  simp only [unifyLines_eq_equals_iff]
  constructor
  · rintro ⟨_, ⟨behind, spelled, rfl⟩, some⟩
    exact ⟨behind, spelled, mt unifyLines_eq_nil_iff.mpr some⟩
  · rintro ⟨behind, spelled, some⟩
    exact ⟨_, ⟨behind, spelled, rfl⟩, mt unifyLines_eq_nil_iff.mp some⟩

theorem readsBackAs_keptText? (text : String) : ReadsBackAs text (keptText? text) := by
  unfold keptText?
  split
  · next formula =>
    refine ⟨iff_of_false nofun ?_, fun _ => rfl, fun plain => ?_⟩
    · rintro ⟨plain, _⟩
      exact Bool.false_ne_true (plain.symm.trans formula)
    · exact absurd (plain.symm.trans formula) Bool.false_ne_true
  · next plain =>
    rw [Bool.not_eq_true] at plain
    refine ⟨?_, fun formula => ?_, fun _ => rfl⟩
    · rw [Option.some.injEq, unifiedText_eq_self_iff, and_iff_right plain]
    · exact absurd (plain.symm.trans formula) Bool.false_ne_true

/-! ## Cells of a grid -/

/-- What is read back from a cell, if it is not blank. -/
def kept? (value : Value) : Option Value :=
  match readBack value with
  | .null => none
  | kept => some kept

theorem cellsOf_eq (values : List Value) :
    cellsOf values =
      values.zipIdx.filterMap fun (value, column) =>
        (kept? value).map fun kept => (column, kept) := by
  unfold cellsOf
  congr 1
  funext (value, column)
  dsimp only [kept?]
  generalize readBack value = held
  cases held <;> rfl

theorem get?_cellsOf (values : List Value) (column : Nat) :
    Assoc.get? (cellsOf values) column = (values[column]?).bind kept? := by
  ext kept
  rw [(columnsAscend_cellsOf values).get?_eq_some_iff, cellsOf_eq, List.mem_filterMap,
    Option.bind_eq_some_iff]
  constructor
  · rintro ⟨⟨value, place⟩, present, same⟩
    obtain ⟨_, isKept, pair⟩ := Option.map_eq_some_iff.mp same
    cases pair
    exact ⟨value, List.mem_zipIdx_iff_getElem?.mp present, isKept⟩
  · rintro ⟨value, present, isKept⟩
    exact ⟨(value, column), List.mem_zipIdx_iff_getElem?.mpr present,
      Option.map_eq_some_iff.mpr ⟨kept, isKept, rfl⟩⟩

/-- The rows of a grid with their numbers. -/
def sheetRows (grid : Grid) : List SheetRow :=
  grid.rows.zipIdx.map fun (values, index) => ⟨Int.ofNat index + 1, cellsOf values⟩

theorem ascendingFrom_eq_self {next : Int} {rows : List SheetRow}
    (from_next : ∀ row ∈ rows, next ≤ row.number) (ascending : Ascending rows) :
    Worksheet.ascendingFrom next rows = rows := by
  induction rows generalizing next with
  | nil => rfl
  | cons first rest inductionHypothesis =>
    obtain ⟨before, restAscending⟩ := List.pairwise_cons.mp ascending
    rw [Worksheet.ascendingFrom, if_pos (from_next first List.mem_cons_self)]
    rw [inductionHypothesis (fun row present => before row present) restAscending]

/-- All rows of a grid are read back. -/
theorem rows_toWorksheet (grid : Grid) : grid.toWorksheet.rows = grid.sheetRows := by
  apply ascendingFrom_eq_self
  · intro row present
    obtain ⟨⟨values, index⟩, _, rfl⟩ := List.mem_map.mp present
    have counted := Int.natCast_nonneg index
    dsimp only [headerRowNumber, Int.ofNat_eq_natCast]
    omega
  · rw [Ascending, List.pairwise_map]
    refine (pairwise_places grid.rows).imp fun {earlier later} before => ?_
    dsimp only [Int.ofNat_eq_natCast]
    omega

theorem isOrdered_toWorksheet (grid : Grid) : grid.toWorksheet.IsOrdered := by
  intro row present
  rw [rows_toWorksheet] at present
  obtain ⟨_, _, rfl⟩ := List.mem_map.mp present
  exact columnsAscend_cellsOf _

/-- A cell of a grid is read back at its place, which is counted from one for rows. -/
theorem cell?_toWorksheet {grid : Grid} {row column : Nat} {value : Value}
    (held : grid.cell? row column = some value) :
    grid.toWorksheet.cell? (row + 1) column = kept? value := by
  obtain ⟨values, inGrid, inRow⟩ := Option.bind_eq_some_iff.mp held
  have present : (⟨Int.ofNat row + 1, cellsOf values⟩ : SheetRow) ∈ grid.toWorksheet.rows := by
    rw [rows_toWorksheet]
    exact List.mem_map.mpr ⟨(values, row), List.mem_zipIdx_iff_getElem?.mpr inGrid, rfl⟩
  have cells := Worksheet.cellsAt_number present
  rw [Worksheet.cell?]
  refine (congrArg (Assoc.get? · column) cells).trans ?_
  rw [get?_cellsOf, inRow]
  rfl

end Grid

/-- A cell below the header is found in the sheet of a worksheet if it is not blank. -/
theorem Worksheet.cell?_toSheet {worksheet : Worksheet} {number : Int} {column : Nat}
    (below : (headerRowNumber : Int) < number)
    (shown : ∀ value, worksheet.cell? number column = some value → value.isBlankCell = false) :
    worksheet.toSheet.cell? number column = worksheet.cell? number column := by
  ext value
  constructor
  · intro found
    obtain ⟨row, isFound, inRow⟩ := Option.bind_eq_some_iff.mp found
    have present : row ∈ worksheet.rows :=
      List.mem_of_mem_filter (List.mem_of_find?_eq_some isFound)
    obtain rfl : row.number = number := by simpa using List.find?_some isFound
    rwa [cell?, cellsAt_number present]
  · intro found
    -- A row with a cell that is not blank is a data row.
    have held := shown value found
    obtain ⟨row, present, rfl⟩ := exists_of_cell? found
    rw [cell?, cellsAt_number present] at found
    have isData : row ∈ worksheet.dataRows := by
      refine List.mem_filter.mpr ⟨present, ?_⟩
      rw [Bool.and_eq_true, decide_eq_true_eq, holdsData, List.any_eq_true]
      exact ⟨below, (column, value), Assoc.mem_of_get? found, by rw [held]; rfl⟩
    have ascending : Ascending worksheet.dataRows := worksheet.ascending.filter _
    exact Option.bind_eq_some_iff.mpr ⟨row, find?_number ascending isData, found⟩

/-! ## Texts in a grid -/

section

open Grid Writing

variable {text : String}

theorem unifiedText_nonempty (nonempty : text.isEmpty = false) :
    (unifiedText text).isEmpty = false := by
  rw [← Bool.not_eq_true, String.isEmpty_iff] at nonempty ⊢
  rw [← String.toList_eq_nil_iff] at nonempty ⊢
  rw [unifiedText, String.toList_ofList]
  exact mt unifyLines_eq_nil_iff.mp nonempty

/-- A cell holds a text with unified line ends. -/
theorem isHeldAs_text_iff (isText : IsCellText text) {held : Value} :
    IsHeldAs (.text text) held ↔ held = .text (unifiedText text) := by
  have form : cellForm (.text text) = .text text := rfl
  have stored : asCell (.text text) = .ok (.text (unifiedText text)) := by
    rw [asCell, form, store, isText.nonempty, storeText, List.take_of_length_le isText.fits]
    rfl
  rw [IsHeldAs, stored, Except.ok.injEq, eq_comm]

theorem kept?_unifiedText (text : String) :
    kept? (.text (unifiedText text)) = (keptText? text).map .text := by
  rw [kept?, readBack, isFormula_unifiedText, keptText?]
  cases isFormula text <;> rfl

/-- What is read back of a text is not blank. -/
theorem isBlankCell_of_keptText? (isText : IsCellText text) {value : Value}
    (kept : (keptText? text).map .text = some value) : value.isBlankCell = false := by
  obtain ⟨found, isKept, rfl⟩ := Option.map_eq_some_iff.mp kept
  unfold keptText? at isKept
  split at isKept
  · cases isKept
  · cases isKept
    exact unifiedText_nonempty isText.nonempty

variable {grid : Grid} {held : Value} {column : Nat}

theorem header_of_held (isText : IsCellText text) (isHeld : IsHeldAs (.text text) held)
    (here : grid.cell? 0 column = some held) :
    ReadsBackAs text (Assoc.get? grid.toWorksheet.toSheet.header column) := by
  obtain rfl := (isHeldAs_text_iff isText).mp isHeld
  have cell := (cell?_toWorksheet here).trans (kept?_unifiedText text)
  have found : Assoc.get? grid.toWorksheet.toSheet.header column = keptText? text := by
    rw [Worksheet.toSheet, Worksheet.get?_header (isOrdered_toWorksheet grid),
      Worksheet.headerText?]
    refine (congrArg (fun cell => (cell.filter fun value => !value.isBlankCell).map Value.plainText)
      cell).trans ?_
    cases kept : keptText? text with
    | none => rfl
    | some shown =>
      have notBlank := isBlankCell_of_keptText? isText (congrArg (Option.map Value.text) kept)
      rw [Option.map_some, Option.filter_some, notBlank]
      rfl
  rw [found]
  exact readsBackAs_keptText? text

theorem cell_of_held (isText : IsCellText text) (isHeld : IsHeldAs (.text text) held) {index : Nat}
    (here : grid.cell? (index + 1) column = some held) :
    ∃ found, grid.toWorksheet.toSheet.cell? (index + firstDataRowNumber) column =
      found.map .text ∧ ReadsBackAs text found := by
  obtain rfl := (isHeldAs_text_iff isText).mp isHeld
  have cell := (cell?_toWorksheet here).trans (kept?_unifiedText text)
  refine ⟨keptText? text, ?_, readsBackAs_keptText? text⟩
  have place : ((index + 1 : Nat) : Int) + 1 = index + firstDataRowNumber := by
    unfold firstDataRowNumber headerRowNumber
    omega
  rw [place] at cell
  rw [Worksheet.cell?_toSheet, cell]
  · unfold firstDataRowNumber
    omega
  · intro value found
    rw [cell] at found
    exact isBlankCell_of_keptText? isText found

end

end Workbook

end SheetIntake
