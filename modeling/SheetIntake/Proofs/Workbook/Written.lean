import Mathlib.Data.List.Nodup
import SheetIntake.Proofs.Assoc
import SheetIntake.Proofs.Outcome
import SheetIntake.Proofs.Workbook.Title

/-!
# Worksheets that are written

Sheets are written one after the other. Under names that are kept as titles, each is a worksheet of
its own, with its name for a title. A sheet with rows is written as a table, whose columns are the
fields of its first row; `Tabulates` says what that is once the cells are stored. All other sheets
are written as one cell that says so.
-/

namespace SheetIntake.Workbook.Writing

open Text Title

/-- A value as a cell holds it that it is put into. -/
def asCell (value : Value) : Except Failure Value :=
  Grid.store (cellForm value)

/-- Rows of cells hold a table: the names of the fields, and below them one row of cells for each
row, with the value of each field in its column. -/
inductive Tabulates (fields : List String) (rows : List Row) : List (List Value) → Prop
  | intro {header : List Value} {body : List (List Value)}
    (named : List.Forall₂ (fun field cell => asCell (.text field) = .ok cell) fields header)
    (each : List.Forall₂ (fun row cells =>
      List.Forall₂ (fun field cell => asCell (row.field field) = .ok cell) fields cells)
      rows body) :
    Tabulates fields rows (header :: body)

/-- What a sheet is written as: its title is its name, and its cells are those of its rows. -/
def IsWritten (data : Selection.SheetRows) (name : String) (grid : Grid) : Prop :=
  grid.title = name ∧ cells (Assoc.get? data name).join = .ok grid.rows

theorem eq_of_check {name checked : String} (passed : Title.check name = .ok checked) :
    checked = name := by
  unfold Title.check at passed
  split at passed
  · cases passed
  · cases passed
    rfl

theorem unused_of_notMem {titles : List String} {title : String}
    (free : lower title ∉ titles.map lower) : unused titles title = title := by
  rw [unused, isTaken, if_neg]
  rwa [List.contains_iff_mem]

/-- A title is kept if it is not taken and not respelled. -/
theorem titleFor_eq {titles : List String} {name title : String}
    (free : lower name ∉ titles.map lower) (own : isRespelled name = false)
    (given : titleFor titles name = .ok title) : title = name := by
  obtain ⟨checked, passed, last⟩ := Outcome.bind_eq_ok_iff.mp given
  obtain rfl := eq_of_check passed
  cases last
  split
  · next isStart => exact isStart.symm
  · next other =>
    apply unused_of_notMem
    rw [List.map_append, List.mem_append, List.map_singleton, List.mem_singleton]
    rintro (taken | isStart)
    · exact free taken
    · exact other (eq_of_lower_eq_unused own isStart)

/-- A sheet whose name is kept is written as a new worksheet. -/
theorem exists_of_writeSheet {data : Selection.SheetRows} {written next : List Grid} {name : String}
    (free : lower name ∉ (written.map Grid.title).map lower) (own : isRespelled name = false)
    (wrote : writeSheet data written name = .ok next) :
    ∃ grid, IsWritten data name grid ∧ next = written ++ [grid] := by
  have new : ¬ (written.any fun grid => grid.title = name) = true := by
    rw [List.any_eq_true]
    rintro ⟨grid, present, same⟩
    have isName : grid.title = name := of_decide_eq_true same
    exact free (List.mem_map_of_mem (isName ▸ List.mem_map_of_mem present))
  unfold writeSheet at wrote
  dsimp only at wrote
  rw [if_neg new] at wrote
  obtain ⟨title, given, rest⟩ := Outcome.bind_eq_ok_iff.mp wrote
  obtain ⟨rows, made, last⟩ := Outcome.bind_eq_ok_iff.mp rest
  cases last
  exact ⟨⟨title, rows⟩, ⟨titleFor_eq free own given, made⟩, rfl⟩

/-- Sheets whose names are kept are written one after the other, each as a new worksheet. -/
theorem exists_of_writeSheets {data : Selection.SheetRows} {names : List String}
    {written result : List Grid} (kept : AreKept (written.map Grid.title ++ names))
    (wrote : names.foldlM (writeSheet data) written = .ok result) :
    ∃ grids, List.Forall₂ (IsWritten data) names grids ∧ result = written ++ grids := by
  induction names generalizing written with
  | nil =>
    cases wrote
    exact ⟨[], .nil, (List.append_nil _).symm⟩
  | cons name rest inductionHypothesis =>
    rw [List.foldlM_cons] at wrote
    obtain ⟨next, wroteHere, wroteRest⟩ := Outcome.bind_eq_ok_iff.mp wrote
    have free : lower name ∉ (written.map Grid.title).map lower := by
      have apart := kept.apart
      rw [List.map_append, List.nodup_append] at apart
      intro taken
      exact apart.2.2 _ taken _ List.mem_cons_self rfl
    have own := kept.own name (List.mem_append_right _ List.mem_cons_self)
    obtain ⟨grid, isWritten, rfl⟩ := exists_of_writeSheet free own wroteHere
    have shape : (written ++ [grid]).map Grid.title ++ rest =
        written.map Grid.title ++ name :: rest := by
      rw [List.map_append, List.append_assoc, List.map_singleton, isWritten.1,
        List.singleton_append]
    obtain ⟨grids, restWritten, rfl⟩ := inductionHypothesis (shape ▸ kept) wroteRest
    exact ⟨grid :: grids, .cons isWritten restWritten, List.append_assoc _ _ _⟩

/-- What is stored of a sheet that is written. -/
def IsStored (data : Selection.SheetRows) (name : String) (grid : Grid) : Prop :=
  grid.title = name ∧ ∃ rows, cells (Assoc.get? data name).join = .ok rows ∧
    (rows.mapM fun values => values.mapM Grid.store) = .ok grid.rows

/-- The names under which sheets are written. -/
def writtenNames (names : List String) : List String :=
  if names.isEmpty then [soleSheetName] else names

theorem areKept_writtenNames {names : List String} (kept : AreKept names) :
    AreKept (writtenNames names) := by
  unfold writtenNames
  split
  · exact ⟨by decide, by decide⟩
  · exact kept

/-- Under names that are kept, one worksheet is written for each, in their order. -/
theorem forall₂_of_write {data : Selection.SheetRows} {names : List String} {grids : List Grid}
    (kept : AreKept names) (wrote : write data names = .ok grids) :
    List.Forall₂ (IsStored data) (writtenNames names) grids := by
  have distinct : Assoc.distinct names = names :=
    Assoc.distinct_of_nodup (List.Nodup.of_map lower kept.apart)
  unfold write at wrote
  dsimp only at wrote
  rw [distinct] at wrote
  obtain ⟨written, wroteAll, storedAll⟩ := Outcome.bind_eq_ok_iff.mp wrote
  obtain ⟨made, writtenAll, rfl⟩ := exists_of_writeSheets (areKept_writtenNames kept) wroteAll
  refine Outcome.forall₂_trans ?_ writtenAll (Outcome.mapM_eq_ok_iff.mp storedAll)
  rintro name grid stored ⟨titled, filled⟩ storedHere
  obtain ⟨rows, rowsStored, last⟩ := Outcome.bind_eq_ok_iff.mp storedHere
  cases last
  exact ⟨titled, grid.rows, filled, rowsStored⟩

/-- A sheet without rows is stored as one cell that says so. -/
theorem rows_of_none {data : Selection.SheetRows} {name : String} {grid : Grid}
    (stored : IsStored data name grid) (empty : (Assoc.get? data name).join.getD [] = []) :
    grid.rows = [[.text placeholder]] := by
  obtain ⟨_, rows, filled, rowsStored⟩ := stored
  have one : rows = [[.text placeholder]] := by
    revert filled empty
    cases (Assoc.get? data name).join with
    | none =>
      intro _ filled
      exact (Except.ok.inj filled).symm
    | some given =>
      rintro rfl filled
      exact (Except.ok.inj filled).symm
  rw [one] at rowsStored
  exact (Except.ok.inj rowsStored).symm

/-- Without names one worksheet is written, which says so if no rows are given under its name. -/
theorem eq_of_write_nil {data : Selection.SheetRows} {grids : List Grid}
    (absent : Assoc.get? data soleSheetName = none) (wrote : write data [] = .ok grids) :
    grids = [⟨soleSheetName, [[.text placeholder]]⟩] := by
  have kept : AreKept [] := ⟨.nil, fun _ => nofun⟩
  obtain ⟨grid, others, stored, noOthers, rfl⟩ :=
    List.forall₂_cons_left_iff.mp (forall₂_of_write kept wrote)
  obtain rfl := List.forall₂_nil_left_iff.mp noOthers
  have filled : grid.rows = [[.text placeholder]] := by
    apply rows_of_none stored
    rw [absent]
    rfl
  obtain ⟨title, rows⟩ := grid
  obtain rfl : title = soleSheetName := stored.1
  obtain rfl : rows = [[.text placeholder]] := filled
  rfl

/-- The cells of a sheet with rows are those of its table. -/
theorem cells_of_rows {first : Row} {rest : List Row} {made : List (List Value)}
    (filled : cells (some (first :: rest)) = .ok made) :
    made = (table (first :: rest)).map fun values => values.map cellForm := by
  unfold cells at filled
  split at filled
  · next none => cases none
  · next none => cases none
  · next isRows =>
    cases isRows
    split at filled
    · cases filled
    · exact (Except.ok.inj filled).symm

/-- A sheet with rows that have some fields is stored as a table of these fields. -/
theorem tabulates_of_some {data : Selection.SheetRows} {name : String} {grid : Grid} {first : Row}
    {rest : List Row} (stored : IsStored data name grid)
    (given : (Assoc.get? data name).join = some (first :: rest))
    (fields : Assoc.keys first ≠ []) :
    Tabulates (Assoc.keys first) (first :: rest) grid.rows := by
  obtain ⟨_, made, filled, rowsStored⟩ := stored
  rw [given] at filled
  have shape : table (first :: rest) = (Assoc.keys first).map .text ::
      (first :: rest).map fun row => (Assoc.keys first).map row.field := by
    have named : ¬ (Assoc.keys first).isEmpty = true := by
      rwa [List.isEmpty_iff]
    exact if_neg named
  rw [cells_of_rows filled, shape] at rowsStored
  have each := Outcome.mapM_eq_ok_iff.mp rowsStored
  rw [List.forall₂_map_left_iff, List.forall₂_cons_left_iff] at each
  obtain ⟨header, body, headerStored, bodyStored, isTable⟩ := each
  rw [isTable]
  refine .intro ?_ ?_
  · have cellsStored := Outcome.mapM_eq_ok_iff.mp headerStored
    rw [List.map_map, List.forall₂_map_left_iff] at cellsStored
    exact cellsStored
  · rw [List.forall₂_map_left_iff] at bodyStored
    apply bodyStored.imp
    intro row cells rowStored
    have cellsStored := Outcome.mapM_eq_ok_iff.mp rowStored
    rw [List.map_map, List.forall₂_map_left_iff] at cellsStored
    exact cellsStored

end SheetIntake.Workbook.Writing
