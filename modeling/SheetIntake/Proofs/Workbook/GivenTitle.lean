import SheetIntake.Proofs.Workbook.Shown
import SheetIntake.Schema.Registry

/-!
# Titles that are given

Names are told apart as they are spelled, but titles are taken in any letter case. So a name need
not become the title of its worksheet, and a title that was given in its place may be the name of a
later sheet, which is then written over that worksheet. `ofNames` follows the titles through a whole
export. The main statements say exactly when every name is given as a title and exactly when every
name has a worksheet of its own.
-/

namespace SheetIntake.Workbook

open Text Writing

namespace Title

/-- The title under which a new worksheet is kept that is given a name, beside others with the
titles in use. -/
def ofNew (titles : List String) (name : String) : String :=
  let start := unused titles newTitle
  if name = start then start else unused (titles ++ [start]) name

/-- The titles in use after a sheet is written under a name. -/
def withName (titles : List String) (name : String) : List String :=
  if name ∈ titles then titles else titles ++ [ofNew titles name]

/-- The titles in use after sheets are written under names, one after the other. -/
def ofNames (names : List String) : List String :=
  names.foldl withName []

/-- A name is free beside titles: none of them is the same word in lower case, or the name is not
found among them again when letters are compared one by one. The second is possible because a letter
may have a lower case of two letters. -/
def IsFree (titles : List String) (name : String) : Prop :=
  lower name ∉ titles.map lower ∨ numbersAfter name.toList 0 (",".intercalate titles).toList = []

instance (titles : List String) (name : String) : Decidable (IsFree titles name) :=
  inferInstanceAs (Decidable (_ ∨ _))

/-- Whether a new worksheet keeps a name as its title: it begins with this title, or the name is
free beside the titles in use and the one that it begins with. -/
def Keeps (titles : List String) (name : String) : Prop :=
  name = unused titles newTitle ∨ IsFree (titles ++ [unused titles newTitle]) name

instance (titles : List String) (name : String) : Decidable (Keeps titles name) :=
  inferInstanceAs (Decidable (_ ∨ _))

/-- Each name is kept when its turn comes, after those before it. -/
def AreKeptInTurn (names : List String) : Prop :=
  ∀ earlier name later, names = earlier ++ name :: later → Keeps earlier name

/-- No name is the title of a worksheet already when its turn comes. -/
def AreNewInTurn (names : List String) : Prop :=
  ∀ earlier name later, names = earlier ++ name :: later → name ∉ ofNames earlier

theorem append_toString_ne (title : String) (number : Nat) : title ++ toString number ≠ title := by
  intro same
  have lengths := congrArg String.length same
  rw [String.length_append] at lengths
  have positive : (toString number).length ≠ 0 := by simp
  omega

/-- A title is left as it is exactly when it is free. -/
theorem unused_eq_self_iff {titles : List String} {title : String} :
    unused titles title = title ↔ IsFree titles title := by
  unfold unused IsFree
  split
  · next taken =>
    rw [isTaken, List.contains_iff_mem] at taken
    rw [or_iff_right (not_not_intro taken)]
    split
    · next empty => exact iff_of_true rfl empty
    · next further => exact iff_of_false (append_toString_ne title _) further
  · next free =>
    rw [isTaken, List.contains_iff_mem] at free
    exact iff_of_true rfl (.inl free)

/-- A new worksheet has the name it is given for a title exactly when it keeps it. -/
theorem ofNew_eq_self_iff {titles : List String} {name : String} :
    ofNew titles name = name ↔ Keeps titles name := by
  unfold ofNew Keeps
  dsimp only
  split
  · next isStart => exact iff_of_true isStart.symm (.inl isStart)
  · next other => rw [unused_eq_self_iff, or_iff_right other]

theorem ofNames_append_singleton (names : List String) (name : String) :
    ofNames (names ++ [name]) = withName (ofNames names) name := by
  rw [ofNames, List.foldl_append]
  rfl

/-- There are at most as many titles as names. -/
theorem length_ofNames_le (names : List String) : (ofNames names).length ≤ names.length := by
  induction names using List.reverseRecOn with
  | nil => exact Nat.le_refl 0
  | append_singleton names name inductionHypothesis =>
    rw [ofNames_append_singleton, withName, List.length_append, List.length_singleton]
    split
    · omega
    · rw [List.length_append, List.length_singleton]
      omega

/-- A condition on each name in its turn holds of a list with one more name when it holds of the
list and of the last name after all others. -/
theorem forall_turns_append_singleton {condition : List String → String → Prop}
    {names : List String} {name : String} :
    (∀ earlier other later, names ++ [name] = earlier ++ other :: later →
        condition earlier other) ↔
      (∀ earlier other later, names = earlier ++ other :: later → condition earlier other) ∧
        condition names name := by
  constructor
  · intro each
    refine ⟨fun earlier other later split => ?_, each names name [] rfl⟩
    apply each earlier other (later ++ [name])
    rw [split, List.append_assoc, List.cons_append]
  · rintro ⟨before, last⟩ earlier other later split
    cases later using List.reverseRecOn with
    | nil =>
      obtain ⟨rfl, isLast⟩ := List.append_inj' split rfl
      cases isLast
      exact last
    | append_singleton later final =>
      rw [← List.cons_append, ← List.append_assoc] at split
      exact before earlier other later (List.append_inj' split rfl).1

/-- The names are the titles exactly when each is kept in its turn. -/
theorem ofNames_eq_self_iff {names : List String} (once : names.Nodup) :
    ofNames names = names ↔ AreKeptInTurn names := by
  induction names using List.reverseRecOn with
  | nil =>
    refine iff_of_true rfl ?_
    intro earlier name later split
    simp at split
  | append_singleton names name inductionHypothesis =>
    have parts := List.nodup_append.mp once
    have new : name ∉ names := fun present =>
      parts.2.2 name present name (List.mem_singleton_self name) rfl
    rw [AreKeptInTurn, forall_turns_append_singleton, ← AreKeptInTurn, ← ofNew_eq_self_iff,
      ← inductionHypothesis parts.1, ofNames_append_singleton, withName]
    constructor
    · intro same
      split at same
      · next taken =>
        -- Then there would be more names than titles before the last name.
        have lengths := congrArg List.length same
        have bound := length_ofNames_le names
        rw [List.length_append, List.length_singleton] at lengths
        omega
      · obtain ⟨before, last⟩ := List.append_inj' same rfl
        rw [before] at last
        exact ⟨before, List.singleton_inj.mp last⟩
    · rintro ⟨before, last⟩
      rw [before, if_neg new, last]

/-- There is a title for each name exactly when no name is a title before its turn. -/
theorem length_ofNames_eq_iff (names : List String) :
    (ofNames names).length = names.length ↔ AreNewInTurn names := by
  induction names using List.reverseRecOn with
  | nil =>
    refine iff_of_true rfl ?_
    intro earlier name later split
    simp at split
  | append_singleton names name inductionHypothesis =>
    have bound := length_ofNames_le names
    rw [AreNewInTurn, forall_turns_append_singleton, ← AreNewInTurn, ← inductionHypothesis,
      ofNames_append_singleton, withName, List.length_append, List.length_singleton]
    split
    · next taken =>
      refine iff_of_false (by omega) ?_
      rintro ⟨_, new⟩
      exact new taken
    · next new =>
      rw [List.length_append, List.length_singleton, and_iff_left new]
      omega

end Title

namespace Writing

open Title

/-- Everything that writing a sheet can do: write it over the worksheets that have its name for a
title, or else as a new worksheet. -/
theorem writeSheet_cases {data : Selection.SheetRows} {written next : List Grid} {name : String}
    (wrote : writeSheet data written name = .ok next) :
    ∃ rows, cells (Assoc.get? data name).join = .ok rows ∧
      (name ∈ written.map Grid.title ∧ next = (written.map fun grid =>
          if grid.title = name then ⟨name, overlay grid.rows rows⟩ else grid) ∨
        name ∉ written.map Grid.title ∧
          next = written ++ [⟨ofNew (written.map Grid.title) name, rows⟩]) := by
  have isTitle : (written.any fun grid => grid.title = name) = true ↔
      name ∈ written.map Grid.title := by
    simp [List.any_eq_true]
  unfold writeSheet at wrote
  dsimp only at wrote
  split at wrote
  · next taken =>
    obtain ⟨rows, made, last⟩ := Outcome.bind_eq_ok_iff.mp wrote
    cases last
    exact ⟨rows, made, .inl ⟨isTitle.mp taken, rfl⟩⟩
  · next new =>
    obtain ⟨title, given, rest⟩ := Outcome.bind_eq_ok_iff.mp wrote
    obtain ⟨rows, made, last⟩ := Outcome.bind_eq_ok_iff.mp rest
    obtain ⟨checked, passed, titled⟩ := Outcome.bind_eq_ok_iff.mp given
    obtain rfl := eq_of_check passed
    cases last
    cases titled
    exact ⟨rows, made, .inr ⟨mt isTitle.mpr new, rfl⟩⟩

theorem titles_of_writeSheet {data : Selection.SheetRows} {written next : List Grid} {name : String}
    (wrote : writeSheet data written name = .ok next) :
    next.map Grid.title = withName (written.map Grid.title) name := by
  obtain ⟨rows, _, ⟨taken, rfl⟩ | ⟨new, rfl⟩⟩ := writeSheet_cases wrote
  · rw [withName, if_pos taken, List.map_map]
    apply List.map_congr_left
    intro grid present
    rw [Function.comp_apply]
    split
    · next same => exact same.symm
    · rfl
  · rw [withName, if_neg new, List.map_append, List.map_singleton]

/-- A last name is written after all others. -/
theorem exists_of_writeSheets_append_singleton {data : Selection.SheetRows} {names : List String}
    {name : String} {result : List Grid}
    (wrote : (names ++ [name]).foldlM (writeSheet data) [] = .ok result) :
    ∃ before, names.foldlM (writeSheet data) [] = .ok before ∧
      writeSheet data before name = .ok result := by
  rw [List.foldlM_append] at wrote
  obtain ⟨before, wroteBefore, rest⟩ := Outcome.bind_eq_ok_iff.mp wrote
  obtain ⟨next, wroteLast, last⟩ := Outcome.bind_eq_ok_iff.mp rest
  cases last
  exact ⟨before, wroteBefore, wroteLast⟩

/-- The titles of worksheets that are written under names one after the other. -/
theorem titles_of_writeSheets {data : Selection.SheetRows} {names : List String}
    {result : List Grid} (wrote : names.foldlM (writeSheet data) [] = .ok result) :
    result.map Grid.title = ofNames names := by
  induction names using List.reverseRecOn generalizing result with
  | nil =>
    cases wrote
    rfl
  | append_singleton names name inductionHypothesis =>
    obtain ⟨before, wroteBefore, wroteLast⟩ := exists_of_writeSheets_append_singleton wrote
    rw [ofNames_append_singleton, ← inductionHypothesis wroteBefore, titles_of_writeSheet wroteLast]

/-- A worksheet has the cells of the rows given under a name. -/
def IsFilled (data : Selection.SheetRows) (name : String) (grid : Grid) : Prop :=
  cells (Assoc.get? data name).join = .ok grid.rows

/-- Names that are new in their turn have a worksheet each, with the cells of the rows given under
them. -/
theorem isFilled_of_writeSheets {data : Selection.SheetRows} {names : List String}
    {result : List Grid} (wrote : names.foldlM (writeSheet data) [] = .ok result)
    (new : AreNewInTurn names) : List.Forall₂ (IsFilled data) names result := by
  induction names using List.reverseRecOn generalizing result with
  | nil =>
    cases wrote
    exact .nil
  | append_singleton names name inductionHypothesis =>
    obtain ⟨before, wroteBefore, wroteLast⟩ := exists_of_writeSheets_append_singleton wrote
    obtain ⟨newBefore, newLast⟩ := forall_turns_append_singleton.mp new
    rw [← titles_of_writeSheets wroteBefore] at newLast
    obtain ⟨rows, made, ⟨taken, _⟩ | ⟨_, rfl⟩⟩ := writeSheet_cases wroteLast
    · exact absurd taken newLast
    · exact List.rel_append (inductionHypothesis wroteBefore newBefore) (.cons made .nil)

/-- What is stored of a worksheet under whatever title. -/
theorem shows_of_filled {data : Selection.SheetRows} {name : String} {grid held : Grid}
    (filled : IsFilled data name grid) (stored : grid.stored = .ok held) :
    Shows (Assoc.get? data name).join held := by
  obtain ⟨rows, rowsStored, last⟩ := Outcome.bind_eq_ok_iff.mp stored
  cases last
  have named : IsStored data name ⟨name, rows⟩ := ⟨rfl, grid.rows, filled, rowsStored⟩
  have shows := shows_of_stored named
  exact ⟨shows.placeholder, shows.cells, shows.blank⟩

theorem titles_of_stored {written grids : List Grid}
    (stored : written.mapM Grid.stored = .ok grids) :
    grids.map Grid.title = written.map Grid.title := by
  symm
  rw [← List.forall₂_eq_eq_eq, List.forall₂_map_left_iff, List.forall₂_map_right_iff]
  apply (Outcome.mapM_eq_ok_iff.mp stored).imp
  intro grid held gridStored
  obtain ⟨rows, _, last⟩ := Outcome.bind_eq_ok_iff.mp gridStored
  cases last
  rfl

/-- Each name has a worksheet of its own, which shows the rows given under the name. -/
def HaveOwnWorksheets (data : Selection.SheetRows) (names : List String) (grids : List Grid) :
    Prop :=
  List.Forall₂ (fun name grid => Shows (Assoc.get? data name).join grid) names grids

/-- The worksheets of an export have the distinct names for titles, in the order in which the names
come first, exactly when each name is kept in its turn; and each name has a worksheet of its own
exactly when no name is the title of a worksheet before its turn. If the names are kept, both hold,
and reading the worksheets back finds each under the schema of its name. -/
theorem titles_are_names_iff {data : Selection.SheetRows} {names : List String} {grids : List Grid}
    (named : names ≠ []) (wrote : write data names = .ok grids) :
    (grids.map Grid.title = names.eraseDups ↔ AreKeptInTurn names.eraseDups) ∧
      (HaveOwnWorksheets data names.eraseDups grids ↔ AreNewInTurn names.eraseDups) ∧
      (AreKeptInTurn names.eraseDups → HaveOwnWorksheets data names.eraseDups grids ∧
        ∀ registry : Registry,
          (grids.map fun grid => registry.resolve grid.toWorksheet.toSheet.name) =
            names.eraseDups.map registry.resolve) := by
  have once := Assoc.nodup_distinct names
  unfold write at wrote
  dsimp only at wrote
  rw [Assoc.distinct_eq_eraseDups] at once wrote
  have listed : ¬ names.eraseDups.isEmpty = true := by
    obtain ⟨first, rest, rfl⟩ := List.exists_cons_of_ne_nil named
    rw [List.eraseDups_cons]
    simp
  rw [if_neg listed] at wrote
  obtain ⟨written, wroteAll, storedAll⟩ := Outcome.bind_eq_ok_iff.mp wrote
  have titles : grids.map Grid.title = ofNames names.eraseDups := by
    rw [titles_of_stored storedAll, titles_of_writeSheets wroteAll]
  have areTitles := ofNames_eq_self_iff once
  have own : HaveOwnWorksheets data names.eraseDups grids ↔ AreNewInTurn names.eraseDups := by
    constructor
    · intro each
      rw [← length_ofNames_eq_iff, ← titles, List.length_map]
      exact each.length_eq.symm
    · intro new
      refine Outcome.forall₂_trans ?_ (isFilled_of_writeSheets wroteAll new)
        (Outcome.mapM_eq_ok_iff.mp storedAll)
      exact fun _ _ _ filled stored => shows_of_filled filled stored
  refine ⟨titles ▸ areTitles, own, fun kept => ⟨?_, fun registry => ?_⟩⟩
  · rw [own, ← length_ofNames_eq_iff, areTitles.mpr kept]
  · rw [← areTitles.mpr kept, ← titles, List.map_map]
    rfl

/-- Three names of which the second is the first in another letter case, and the third is the title
that the second is given in its place. -/
def clashingNames : List String := ["Data", "data", "data1"]

/-- Rows for three sheets with such names. -/
def clashingSheets : Selection.SheetRows :=
  [("Data", some [[("a", .text "x")]]), ("data", some [[("b", .text "y")]]),
    ("data1", some [[("c", .text "z")]])]

theorem titles_are_not_clashing_names :
    clashingNames ≠ [] ∧ ∃ grids, write clashingSheets clashingNames = .ok grids ∧
      ¬ AreKeptInTurn clashingNames.eraseDups ∧ grids.map Grid.title ≠ clashingNames.eraseDups ∧
      ¬ AreNewInTurn clashingNames.eraseDups ∧
      ¬ HaveOwnWorksheets clashingSheets clashingNames.eraseDups grids := by
  have answered : (write clashingSheets clashingNames).toOption.isSome = true := by decide +kernel
  obtain ⟨grids, found⟩ := Option.isSome_iff_exists.mp answered
  have wrote := Outcome.eq_ok_of_toOption found
  have named : clashingNames ≠ [] := List.cons_ne_nil _ _
  obtain ⟨titles, own, _⟩ := titles_are_names_iff named wrote
  have distinct : clashingNames.eraseDups = ["Data", "data", "data1"] := by decide
  rw [distinct] at titles own ⊢
  have respelled : ¬ AreKeptInTurn ["Data", "data", "data1"] := by
    intro kept
    exact absurd (kept ["Data"] "data" ["data1"] rfl) (by decide)
  have taken : ¬ AreNewInTurn ["Data", "data", "data1"] := by
    intro new
    exact new ["Data", "data"] "data1" [] rfl (by decide)
  exact ⟨named, grids, wrote, respelled, mt titles.mp respelled, taken, mt own.mp taken⟩

end Writing

end SheetIntake.Workbook
