import SheetIntake.Proofs.Workbook.Written

/-!
# What stands where in a written worksheet

A worksheet of rows is described position by position. `shownAt` says which value belongs at a
position: the names of the first row's fields at the top, and below them what each row has under
these names. A cell holds the form of the value at its position and of no other, so what is held
does not depend on the rest of the column. Where `shownAt` gives nothing there is no cell.
-/

namespace SheetIntake.Workbook

/-- The value at a position of a grid, if there is a cell. Rows and columns are counted from
zero. -/
def Grid.cell? (grid : Grid) (row column : Nat) : Option Value :=
  (grid.rows[row]?).bind fun values => values[column]?

namespace Writing

open Text Title

/-- The value that belongs at a position of a worksheet of rows. -/
def shownAt (rows : List Row) : Nat → Nat → Option Value
  | 0, column => ((headerOf rows)[column]?).map .text
  | index + 1, column =>
    (rows[index]?).bind fun row => ((headerOf rows)[column]?).map row.field

/-- A cell holds the form of a value. -/
def IsHeldAs (value held : Value) : Prop :=
  asCell value = .ok held

theorem isHeldAs_null_iff {held : Value} : IsHeldAs .null held ↔ held = .null := by
  have form : asCell .null = .ok .null := rfl
  rw [IsHeldAs, form, Except.ok.injEq, eq_comm]

/-- A table has at each position the value that belongs there. -/
theorem getElem?_table (rows : List Row) (row column : Nat) :
    ((table rows)[row]?).bind (fun values => values[column]?) = shownAt rows row column := by
  unfold table
  dsimp only
  split
  · next unnamed =>
    rw [List.isEmpty_iff] at unnamed
    cases row with
    | zero => simp [shownAt, unnamed]
    | succ index => simp [shownAt, unnamed]
  · cases row with
    | zero => simp [shownAt]
    | succ index =>
      simp only [shownAt, List.getElem?_cons_succ, List.getElem?_map]
      cases rows[index]? with
      | none => rfl
      | some values => simp

/-- What a worksheet shows of the rows given for it. Without rows it says so in a single cell. Else
each of its cells holds the value that belongs at its position, it has no other cells, and a value
that is null or not there leaves its cell blank. -/
structure Shows (given : Option (List Row)) (grid : Grid) : Prop where
  placeholder : given.getD [] = [] → grid.rows = [[.text Writing.placeholder]]
  cells : ∀ rows, given = some rows → rows ≠ [] → ∀ row column,
    Option.Rel IsHeldAs (shownAt rows row column) (grid.cell? row column)
  blank : ∀ rows, given = some rows → rows ≠ [] → ∀ row column,
    shownAt rows row column = some .null → grid.cell? row column = some .null

/-- There is no cell where no value belongs. -/
theorem eq_none_of_rel {shown held : Option Value} (nothing : shown = none)
    (related : Option.Rel IsHeldAs shown held) : held = none := by
  cases related with
  | none => rfl
  | some _ => cases nothing

/-- The cells of rows that are stored are those of their table, one for one. -/
theorem forall₂_table_of_stored {data : Selection.SheetRows} {name : String} {grid : Grid}
    {rows : List Row} (stored : IsStored data name grid)
    (given : (Assoc.get? data name).join = some rows) (some : rows ≠ []) :
    List.Forall₂ (List.Forall₂ IsHeldAs) (table rows) grid.rows := by
  obtain ⟨_, made, filled, rowsStored⟩ := stored
  obtain ⟨first, rest, rfl⟩ := List.exists_cons_of_ne_nil some
  rw [given] at filled
  rw [cells_of_rows filled, Outcome.mapM_eq_ok_iff, List.forall₂_map_left_iff] at rowsStored
  apply rowsStored.imp
  intro values held valuesStored
  rw [Outcome.mapM_eq_ok_iff, List.forall₂_map_left_iff] at valuesStored
  exact valuesStored

/-- What is stored of a sheet shows its rows. -/
theorem shows_of_stored {data : Selection.SheetRows} {name : String} {grid : Grid}
    (stored : IsStored data name grid) : Shows (Assoc.get? data name).join grid := by
  have cells : ∀ rows, (Assoc.get? data name).join = some rows → rows ≠ [] → ∀ row column,
      Option.Rel IsHeldAs (shownAt rows row column) (grid.cell? row column) := by
    intro rows given some row column
    rw [← getElem?_table, Grid.cell?]
    have inRow := Outcome.rel_getElem? (forall₂_table_of_stored stored given some) row
    exact Outcome.rel_bind inRow fun _ _ matched => Outcome.rel_getElem? matched column
  refine ⟨rows_of_none stored, cells, fun rows given some row column null => ?_⟩
  have related := cells rows given some row column
  rw [null] at related
  cases held : grid.cell? row column with
  | none =>
    rw [held] at related
    cases related
  | some value =>
    rw [held] at related
    cases related with
    | some isNull => rw [isHeldAs_null_iff.mp isNull]

/-- Names of which no two are the same word in lower case, none of them a respelled title of a new
worksheet, are kept as titles once repetitions are removed. -/
theorem areKept_distinct {names : List String}
    (apart : ∀ name ∈ names, ∀ other ∈ names, lower name = lower other → name = other)
    (own : ∀ name ∈ names, isRespelled name = false) : AreKept (Assoc.distinct names) := by
  have listed : ∀ name ∈ Assoc.distinct names, name ∈ names := by
    intro name
    rw [Assoc.distinct_eq_eraseDups, List.mem_eraseDups]
    exact id
  refine ⟨?_, fun name present => own name (listed name present)⟩
  apply (Assoc.nodup_distinct names).map_on
  intro name present other otherPresent
  exact apart name (listed name present) other (listed other otherPresent)

/-- Repeated names make no difference to what is written. -/
theorem write_distinct (data : Selection.SheetRows) (names : List String) :
    write data (Assoc.distinct names) = write data names := by
  unfold write
  rw [Assoc.distinct_of_nodup (Assoc.nodup_distinct names)]

/-- A workbook shows exactly the rows given under the names it is written for. If no two of the
names differ in letter case alone and none respells the title of a new worksheet, there is one
worksheet for each distinct name, in the order in which the names come first, or a single one if
there are no names; its title is the name, and it shows the rows given under it. -/
theorem written_worksheets_show_rows {data : Selection.SheetRows} {names : List String}
    {grids : List Grid}
    (apart : ∀ name ∈ names, ∀ other ∈ names, lower name = lower other → name = other)
    (own : ∀ name ∈ names, isRespelled name = false) (wrote : write data names = .ok grids) :
    List.Forall₂ (fun name grid => grid.title = name ∧ Shows (Assoc.get? data name).join grid)
      (writtenNames names.eraseDups) grids := by
  rw [← write_distinct] at wrote
  have stored := forall₂_of_write (areKept_distinct apart own) wrote
  rw [Assoc.distinct_eq_eraseDups] at stored
  apply stored.imp
  intro name grid isStored
  exact ⟨isStored.1, shows_of_stored isStored⟩

/-- Three sheets: one whose rows have different fields, one without rows, and one whose first row
has no fields. -/
def raggedSheets : Selection.SheetRows :=
  [("Orders", some [[("a", .int 1), ("b", .text "x")], [("c", .int 5), ("b", .null)],
      [("b", .bool true), ("a", .text "2")]]),
    ("Notes", none), ("Blank", some [[], [("a", .int 1)]])]

theorem written_worksheets_show_ragged_rows :
    (∀ name ∈ ["Orders", "Notes", "Orders", "Blank"],
        ∀ other ∈ ["Orders", "Notes", "Orders", "Blank"],
          lower name = lower other → name = other) ∧
      (∀ name ∈ ["Orders", "Notes", "Orders", "Blank"], isRespelled name = false) ∧
      ∃ orders notes blank,
        write raggedSheets ["Orders", "Notes", "Orders", "Blank"] = .ok [orders, notes, blank] ∧
        orders.title = "Orders" ∧
        (∀ row column, Option.Rel IsHeldAs
          (shownAt [[("a", .int 1), ("b", .text "x")], [("c", .int 5), ("b", .null)],
            [("b", .bool true), ("a", .text "2")]] row column) (orders.cell? row column)) ∧
        orders.cell? 2 0 = some .null ∧ orders.cell? 2 1 = some .null ∧
        orders.cell? 3 2 = none ∧ notes.rows = [[.text placeholder]] ∧
        ∀ row column, blank.cell? row column = none := by
  have apart : ∀ name ∈ ["Orders", "Notes", "Orders", "Blank"],
      ∀ other ∈ ["Orders", "Notes", "Orders", "Blank"],
        lower name = lower other → name = other := by decide
  have own : ∀ name ∈ ["Orders", "Notes", "Orders", "Blank"], isRespelled name = false := by decide
  have answered : (write raggedSheets ["Orders", "Notes", "Orders", "Blank"]).toOption.isSome =
      true := by decide +kernel
  obtain ⟨grids, found⟩ := Option.isSome_iff_exists.mp answered
  have wrote := Outcome.eq_ok_of_toOption found
  have all := written_worksheets_show_rows apart own wrote
  have named : writtenNames ["Orders", "Notes", "Orders", "Blank"].eraseDups =
      ["Orders", "Notes", "Blank"] := by decide
  rw [named] at all
  obtain ⟨orders, _, ⟨ordersTitle, ordersShow⟩, afterOrders, rfl⟩ :=
    List.forall₂_cons_left_iff.mp all
  obtain ⟨notes, _, ⟨_, notesShow⟩, afterNotes, rfl⟩ := List.forall₂_cons_left_iff.mp afterOrders
  obtain ⟨blank, _, ⟨_, blankShows⟩, afterBlank, rfl⟩ := List.forall₂_cons_left_iff.mp afterNotes
  obtain rfl := List.forall₂_nil_left_iff.mp afterBlank
  have orderCells := ordersShow.cells _ rfl (List.cons_ne_nil _ _)
  have beyond := orderCells 3 2
  refine ⟨apart, own, orders, notes, blank, wrote, ordersTitle, orderCells,
    ordersShow.blank _ rfl (List.cons_ne_nil _ _) 2 0 rfl,
    ordersShow.blank _ rfl (List.cons_ne_nil _ _) 2 1 rfl, ?_, notesShow.placeholder rfl, ?_⟩
  · exact eq_none_of_rel rfl beyond
  · intro row column
    have nowhere : shownAt [[], [("a", .int 1)]] row column = none := by
      cases row with
      | zero => rfl
      | succ index =>
        rw [shownAt]
        cases ([[], [("a", .int 1)]] : List Row)[index]? with
        | none => rfl
        | some values => rfl
    exact eq_none_of_rel nowhere (blankShows.cells _ rfl (List.cons_ne_nil _ _) row column)

end Writing

end SheetIntake.Workbook
