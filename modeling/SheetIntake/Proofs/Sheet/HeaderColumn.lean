import SheetIntake.Proofs.Assoc
import SheetIntake.Sheet.Basic

/-!
# The column under a header

A header text may stand above several columns, and a row need not have a cell in each of them. What
a row holds under the text is the last of its cells there. So the column that it comes from is the
same for all rows when the text stands above one column only, and otherwise it depends on which
cells a row has: `isReadFromOneColumn_iff` says when one column will do for the whole sheet.
-/

namespace SheetIntake

namespace Sheet

section

variable {header : List (Nat × String)} {text : String}

/-- A cell of a row is the last one under a header text. -/
inductive LastUnder (header : List (Nat × String)) (text : String) :
    List (Nat × Value) → Nat × Value → Prop
  | here {cell : Nat × Value} {after : List (Nat × Value)}
    (headed : Assoc.get? header cell.1 = some text)
    (only : ∀ later ∈ after, Assoc.get? header later.1 ≠ some text) :
    LastUnder header text (cell :: after) cell
  | later {first cell : Nat × Value} {rest : List (Nat × Value)}
    (later : LastUnder header text rest cell) : LastUnder header text (first :: rest) cell

/-- The last cell under a text is a cell under it. -/
theorem LastUnder.mem {cells : List (Nat × Value)} {cell : Nat × Value}
    (last : LastUnder header text cells cell) :
    cell ∈ cells ∧ Assoc.get? header cell.1 = some text := by
  induction last with
  | here headed _ => exact ⟨List.mem_cons_self, headed⟩
  | later _ inductionHypothesis =>
    exact ⟨List.mem_cons_of_mem _ inductionHypothesis.1, inductionHypothesis.2⟩

/-- The first cell of a row counts where no later one is under the same text. -/
theorem get?_namedRow_cons (header : List (Nat × String)) (first : Nat × Value)
    (rest : List (Nat × Value)) (text : String) :
    Assoc.get? (namedRow header (first :: rest)) text =
      (Assoc.get? (namedRow header rest) text).or
        (if Assoc.get? header first.1 = some text then some first.2 else none) := by
  unfold namedRow
  rw [Assoc.get?_ofPairs, Assoc.get?_ofPairs]
  cases above : Assoc.get? header first.1 with
  | none => simp [above]
  | some name =>
    simp [above, Assoc.get?_append, Assoc.get?_cons]

/-- A row holds nothing under a text when it has no cell under it. -/
theorem get?_namedRow_eq_none_iff {cells : List (Nat × Value)} :
    Assoc.get? (namedRow header cells) text = none ↔
      ∀ cell ∈ cells, Assoc.get? header cell.1 ≠ some text := by
  induction cells with
  | nil => exact iff_of_true rfl (fun cell present => nomatch present)
  | cons first rest inductionHypothesis =>
    rw [get?_namedRow_cons, Option.or_eq_none_iff, inductionHypothesis, List.forall_mem_cons,
      and_comm]
    simp

/-- A row holds under a text the last of its cells there. -/
theorem get?_namedRow_eq_some_iff {cells : List (Nat × Value)} {value : Value} :
    Assoc.get? (namedRow header cells) text = some value ↔
      ∃ column, LastUnder header text cells (column, value) := by
  induction cells with
  | nil => exact iff_of_false (fun found => nomatch found) (by rintro ⟨_, ⟨⟩⟩)
  | cons first rest inductionHypothesis =>
    rw [get?_namedRow_cons, Option.or_eq_some_iff, inductionHypothesis, get?_namedRow_eq_none_iff]
    constructor
    · rintro (⟨column, last⟩ | ⟨only, own⟩)
      · exact ⟨column, .later last⟩
      · split at own
        · next headed =>
          cases own
          exact ⟨first.1, .here headed only⟩
        · cases own
    · rintro ⟨column, last⟩
      cases last with
      | here headed only => exact .inr ⟨only, if_pos headed⟩
      | later last => exact .inl ⟨column, last⟩

/-- A row that holds nothing under a text has no cell in a column under it. -/
theorem get?_eq_none_of_nothing_under {cells : List (Nat × Value)} {column : Nat}
    (headed : Assoc.get? header column = some text)
    (nothing : Assoc.get? (namedRow header cells) text = none) :
    Assoc.get? cells column = none := by
  rw [get?_namedRow_eq_none_iff] at nothing
  rw [Assoc.get?_eq_none_iff]
  intro listed
  obtain ⟨cell, present, rfl⟩ := List.mem_map.mp listed
  exact nothing cell present headed

/-- Where the last cell under a text is in one column, a row holds its cell in that column. -/
theorem get?_namedRow_of_last {column : Nat} (headed : Assoc.get? header column = some text)
    {cells : List (Nat × Value)} (once : (Assoc.keys cells).Nodup)
    (there : ∀ other value, LastUnder header text cells (other, value) → other = column) :
    Assoc.get? (namedRow header cells) text = Assoc.get? cells column := by
  cases found : Assoc.get? (namedRow header cells) text with
  | some value =>
    obtain ⟨other, last⟩ := get?_namedRow_eq_some_iff.mp found
    obtain rfl := there other value last
    exact ((Assoc.get?_eq_some_iff_mem once).mpr last.mem.1).symm
  | none => exact (get?_eq_none_of_nothing_under headed found).symm

/-- Under a text that stands above one column only, a row holds its cell in that column. -/
theorem get?_namedRow_of_only {column : Nat} (headed : Assoc.get? header column = some text)
    (only : ∀ other, Assoc.get? header other = some text → other = column)
    {cells : List (Nat × Value)} (once : (Assoc.keys cells).Nodup) :
    Assoc.get? (namedRow header cells) text = Assoc.get? cells column :=
  get?_namedRow_of_last headed once fun other _ last => only other last.mem.2

end

/-- Whether a sheet gives each column one header and each row one cell in a column. -/
structure IsKeyed (sheet : Sheet) : Prop where
  header : (Assoc.keys sheet.header).Nodup
  cells : ∀ row ∈ sheet.rows, (Assoc.keys row.cells).Nodup

/-- All rows of a sheet hold under a header text what they have in one column, and nothing where
they have nothing there. -/
structure ReadsFrom (sheet : Sheet) (text : String) (column : Nat) : Prop where
  headed : Assoc.get? sheet.header column = some text
  held : ∀ row ∈ sheet.rows,
    Assoc.get? (namedRow sheet.header row.cells) text = Assoc.get? row.cells column

/-- Whether the rows of a sheet read a header text from one column: what they hold under it is what
they have in the column, and no row takes it from another. -/
def IsReadFromOneColumn (sheet : Sheet) (text : String) : Prop :=
  ∃ column, sheet.ReadsFrom text column ∧
    ∀ row ∈ sheet.rows, ∀ other value,
      LastUnder sheet.header text row.cells (other, value) → other = column

/-- A column that holds the last cell of every row under its text is the one that the text is read
from. -/
theorem isReadFromOneColumn_of_last {sheet : Sheet} (keyed : sheet.IsKeyed) {text : String}
    {column : Nat} (headed : Assoc.get? sheet.header column = some text)
    (allThere : ∀ row ∈ sheet.rows, ∀ other value,
      LastUnder sheet.header text row.cells (other, value) → other = column) :
    sheet.IsReadFromOneColumn text :=
  ⟨column, ⟨headed, fun row present =>
    get?_namedRow_of_last headed (keyed.cells row present) (allThere row present)⟩, allThere⟩

/-- The rows of a sheet read a header text from one column exactly when no two of them have their
last cells under it in different columns. This is so for a text that stands above one column
only. -/
theorem isReadFromOneColumn_iff {sheet : Sheet} (keyed : sheet.IsKeyed) {text : String}
    (listed : text ∈ Assoc.values sheet.header) :
    (sheet.IsReadFromOneColumn text ↔
      ∀ row ∈ sheet.rows, ∀ another ∈ sheet.rows, ∀ column other value otherValue,
        LastUnder sheet.header text row.cells (column, value) →
          LastUnder sheet.header text another.cells (other, otherValue) → column = other) ∧
      ((∀ column other, Assoc.get? sheet.header column = some text →
        Assoc.get? sheet.header other = some text → column = other) →
          sheet.IsReadFromOneColumn text) := by
  obtain ⟨place, placeHeaded⟩ : ∃ place, Assoc.get? sheet.header place = some text := by
    obtain ⟨entry, inHeader, rfl⟩ := List.mem_map.mp listed
    exact ⟨entry.1, (Assoc.get?_eq_some_iff_mem keyed.header).mpr inHeader⟩
  refine ⟨⟨?_, fun agree => ?_⟩, fun onlyOne => ?_⟩
  · rintro ⟨column, _, allThere⟩ row present another anotherPresent first second value otherValue
      last otherLast
    rw [allThere row present first value last,
      allThere another anotherPresent second otherValue otherLast]
  · by_cases someRow : ∃ row ∈ sheet.rows, ∃ column value,
        LastUnder sheet.header text row.cells (column, value)
    · obtain ⟨row, present, column, value, last⟩ := someRow
      exact isReadFromOneColumn_of_last keyed last.mem.2
        fun another anotherPresent other otherValue otherLast =>
          agree another anotherPresent row present other column otherValue value otherLast last
    · -- No row has a cell under the text, so that any of its columns will do.
      exact isReadFromOneColumn_of_last keyed placeHeaded fun row present other value last =>
        absurd ⟨row, present, other, value, last⟩ someRow
  · exact isReadFromOneColumn_of_last keyed placeHeaded fun _ _ other _ last =>
      onlyOne other place last.mem.2 placeHeaded

/-- A row with a cell under each header. -/
def rowOfBoth : SheetRow :=
  ⟨2, [(0, .text "Ann"), (1, .int 5), (2, .text "2024-01-15"), (3, .text "Yes"), (4, .text "Bob")]⟩

/-- A row without a cell in the last column. -/
def rowOfOne : SheetRow :=
  ⟨3, [(0, .text "Cid"), (1, .int 5), (2, .text "2024-01-15"), (3, .text "Yes")]⟩

/-- A sheet with these rows below a header that names two columns alike. -/
def sheetOfTwoNames : Sheet :=
  ⟨"S", [(0, "Name"), (1, "Amount"), (2, "Date"), (3, "Verified"), (4, "Name")],
    [rowOfBoth, rowOfOne]⟩

theorem not_isReadFromOneColumn_of_two_names :
    sheetOfTwoNames.IsKeyed ∧ "Name" ∈ Assoc.values sheetOfTwoNames.header ∧
      missingColumns sheetOfTwoNames.header .builtin = [] ∧
      ¬ sheetOfTwoNames.IsReadFromOneColumn "Name" ∧
      ¬ ∃ column, sheetOfTwoNames.ReadsFrom "Name" column := by
  have keyed : sheetOfTwoNames.IsKeyed := ⟨by decide, by decide⟩
  have listed : "Name" ∈ Assoc.values sheetOfTwoNames.header := by decide
  have first : rowOfBoth ∈ sheetOfTwoNames.rows := List.mem_cons_self
  have second : rowOfOne ∈ sheetOfTwoNames.rows := List.mem_cons_of_mem _ List.mem_cons_self
  have inFirst : LastUnder sheetOfTwoNames.header "Name" rowOfBoth.cells (4, .text "Bob") :=
    .later (.later (.later (.later (.here rfl fun _ none => nomatch none))))
  have inSecond : LastUnder sheetOfTwoNames.header "Name" rowOfOne.cells (0, .text "Cid") :=
    .here rfl (by decide)
  refine ⟨keyed, listed, by decide, fun readFromOne => ?_, ?_⟩
  · have same := (isReadFromOneColumn_iff keyed listed).1.mp readFromOne rowOfBoth first rowOfOne
      second 4 0 _ _ inFirst inSecond
    cases same
  · rintro ⟨column, _, held⟩
    have bob := held rowOfBoth first
    have cid := held rowOfOne second
    rw [get?_namedRow_eq_some_iff.mpr ⟨4, inFirst⟩] at bob
    rw [get?_namedRow_eq_some_iff.mpr ⟨0, inSecond⟩] at cid
    obtain rfl : column = 4 := by simpa [rowOfBoth] using Assoc.mem_of_get? bob.symm
    cases cid

end Sheet

end SheetIntake
