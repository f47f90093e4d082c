import SheetIntake.Proofs.Sheet.Review

/-!
# Sheets that share a name

A workbook may list several sheets under one name. A review has one place for each name, in its rows
and in its errors, and fills the two places under different conditions: rows when a sheet is
processed, errors when a sheet has some. `entry_eq_iff` says for either place when it shows the last
sheet of a name, and the main result says so for both at once. An earlier sheet of the name must not
have been processed unless the last one was, and must not have had errors unless the last one had.
-/

namespace SheetIntake.WorkbookReview

open Calendar

variable {site : Site}

/-- The entries that reviews leave in a map that is filled under a condition. -/
def entries {α : Type} (holds : SheetReview → Bool) (value : SheetReview → α)
    (reviews : List SheetReview) : List (String × α) :=
  (reviews.filter holds).map fun result => (result.name, value result)

/-- Whether a sheet has errors. -/
def hasErrors (result : SheetReview) : Bool := !result.errors.isEmpty

/-- What a workbook review shows under the name of a sheet is what was found in that sheet. -/
structure Shows (review : WorkbookReview) (result : SheetReview) : Prop where
  rows : Assoc.get? review.rows result.name = if result.processed then some result.rows else none
  errors : Assoc.get? review.errors result.name =
    if hasErrors result then some result.errors else none

theorem sheetNames_foldl_add (review : WorkbookReview) (reviews : List SheetReview) :
    (reviews.foldl add review).sheetNames =
      review.sheetNames ++ reviews.map SheetReview.name := by
  induction reviews generalizing review with
  | nil => simp
  | cons first rest inductionHypothesis =>
    rw [List.foldl_cons, inductionHypothesis]
    simp [add]

/-- A workbook review lists the names of all its sheets in their order. -/
theorem sheetNames_ofSheets {sheets : List Sheet} {registry : Registry} {now : DateTime}
    {review : WorkbookReview} (reviewed : ofSheets site sheets registry now = .ok review) :
    review.sheetNames = sheets.map Sheet.name := by
  obtain ⟨reviews, results, rfl⟩ := ofSheets_eq_ok_iff.mp reviewed
  rw [sheetNames_foldl_add, names_of_reviews results]
  rfl

theorem rows_foldl_add_eq_putAll (review : WorkbookReview) (reviews : List SheetReview) :
    (reviews.foldl add review).rows =
      Assoc.putAll review.rows (entries SheetReview.processed SheetReview.rows reviews) := by
  induction reviews generalizing review with
  | nil => rfl
  | cons first rest inductionHypothesis =>
    rw [List.foldl_cons, inductionHypothesis]
    by_cases processed : first.processed = true
    · simp [entries, add, processed, Assoc.putAll]
    · simp [entries, add, processed]

theorem errors_foldl_add_eq_putAll (review : WorkbookReview) (reviews : List SheetReview) :
    (reviews.foldl add review).errors =
      Assoc.putAll review.errors (entries hasErrors SheetReview.errors reviews) := by
  induction reviews generalizing review with
  | nil => rfl
  | cons first rest inductionHypothesis =>
    rw [List.foldl_cons, inductionHypothesis]
    by_cases free : first.errors = []
    · have unlisted : hasErrors first = false := by simp [hasErrors, free]
      simp [entries, add, unlisted, free]
    · have listed : hasErrors first = true := by simp [hasErrors, free]
      simp [entries, add, listed, free, Assoc.putAll]

section

variable {α : Type} {holds : SheetReview → Bool} {value : SheetReview → α}

theorem name_mem_keys_entries_iff {name : String} {reviews : List SheetReview} :
    name ∈ Assoc.keys (entries holds value reviews) ↔
      ∃ result ∈ reviews, result.name = name ∧ holds result = true := by
  simp only [entries, Assoc.keys, List.map_map, List.mem_map, List.mem_filter, Function.comp_apply]
  constructor
  · rintro ⟨result, ⟨present, held⟩, same⟩
    exact ⟨result, present, same, held⟩
  · rintro ⟨result, present, same, held⟩
    exact ⟨result, ⟨present, held⟩, same⟩

/-- A name is looked up in vain exactly when no sheet of that name left an entry. -/
theorem get?_entries_eq_none_iff {name : String} {reviews : List SheetReview} :
    Assoc.get? (entries holds value reviews).reverse name = none ↔
      ∀ result ∈ reviews, result.name = name → holds result = false := by
  rw [Assoc.get?_eq_none_iff, Assoc.keys, List.map_reverse, List.mem_reverse, ← Assoc.keys,
    name_mem_keys_entries_iff]
  simp

/-- The entry under the name of a sheet, where no later sheet has that name, is the entry of the
sheet exactly when no earlier sheet of the name left one in its stead. -/
theorem entry_eq_iff {front back : List SheetReview} {result : SheetReview}
    (last : ∀ later ∈ back, later.name ≠ result.name) :
    Assoc.get? (Assoc.ofPairs (entries holds value (front ++ result :: back))) result.name =
        (if holds result then some (value result) else none) ↔
      ∀ earlier ∈ front, earlier.name = result.name → holds earlier = true →
        holds result = true := by
  have split : entries holds value (front ++ result :: back) =
      entries holds value front ++ entries holds value [result] ++ entries holds value back := by
    simp only [entries, ← List.map_append, ← List.filter_append, List.append_assoc,
      List.singleton_append]
  have noLater : Assoc.get? (entries holds value back).reverse result.name = none :=
    get?_entries_eq_none_iff.mpr fun later present same => absurd same (last later present)
  rw [Assoc.get?_ofPairs, split, List.reverse_append, List.reverse_append, Assoc.get?_append,
    noLater, Option.none_or, Assoc.get?_append]
  cases held : holds result with
  | true => simp [entries, held, Assoc.get?_cons]
  | false =>
    have noOwn : entries holds value [result] = [] := by simp [entries, held]
    rw [noOwn, List.reverse_nil, Assoc.get?_nil, Option.none_or, if_neg Bool.false_ne_true,
      get?_entries_eq_none_iff]
    simp

end

/-- Under a name that no later sheet has, a review shows a sheet exactly when no earlier sheet of
the name was processed unless this one was, nor had errors unless this one has. -/
theorem shows_iff {front back : List SheetReview} {result : SheetReview}
    (last : ∀ later ∈ back, later.name ≠ result.name) :
    Shows ((front ++ result :: back).foldl add {}) result ↔
      ∀ earlier ∈ front, earlier.name = result.name →
        (earlier.processed = true → result.processed = true) ∧
          (hasErrors earlier = true → hasErrors result = true) := by
  have rows := @entry_eq_iff _ SheetReview.processed SheetReview.rows front back result last
  have errors := @entry_eq_iff _ hasErrors SheetReview.errors front back result last
  have rowsPlace := rows_foldl_add_eq_putAll {} (front ++ result :: back)
  have errorsPlace := errors_foldl_add_eq_putAll {} (front ++ result :: back)
  constructor
  · rintro ⟨rowsShown, errorsShown⟩ earlier present same
    rw [rowsPlace] at rowsShown
    rw [errorsPlace] at errorsShown
    exact ⟨rows.mp rowsShown earlier present same, errors.mp errorsShown earlier present same⟩
  · intro allowed
    refine ⟨?_, ?_⟩
    · rw [rowsPlace]
      exact rows.mpr fun earlier present same => (allowed earlier present same).1
    · rw [errorsPlace]
      exact errors.mpr fun earlier present same => (allowed earlier present same).2

/-- Where no name is repeated, a review shows every sheet. -/
theorem shows_of_distinct {sheets : List Sheet} {registry : Registry} {now : DateTime}
    {review : WorkbookReview} (reviewed : ofSheets site sheets registry now = .ok review)
    (distinct : (sheets.map Sheet.name).Nodup) {sheet : Sheet} (present : sheet ∈ sheets) :
    ∃ result, SheetReview.ofSheet site sheet (registry.resolve sheet.name) now = .ok result ∧
      review.Shows result := by
  obtain ⟨reviews, results, rfl⟩ := ofSheets_eq_ok_iff.mp reviewed
  obtain ⟨result, inReviews, reviewedHere⟩ :=
    Outcome.exists_answer_of_mem (Outcome.mapM_eq_ok_iff.mpr results) present
  obtain ⟨front, back, rfl⟩ := List.append_of_mem inReviews
  rw [← names_of_reviews results, List.map_append, List.map_cons, List.nodup_append] at distinct
  obtain ⟨_, backDistinct, apart⟩ := distinct
  refine ⟨result, reviewedHere, (shows_iff ?_).mpr ?_⟩
  · intro later inBack same
    exact (List.nodup_cons.mp backDistinct).1 (same ▸ List.mem_map_of_mem inBack)
  · intro earlier inFront same
    exact absurd same (apart _ (List.mem_map_of_mem inFront) _ List.mem_cons_self)

/-- A review has entries under the names of its sheets only. -/
theorem get?_eq_none_of_unlisted {sheets : List Sheet} {registry : Registry} {now : DateTime}
    {review : WorkbookReview} (reviewed : ofSheets site sheets registry now = .ok review)
    {name : String} (unlisted : name ∉ review.sheetNames) :
    Assoc.get? review.rows name = none ∧ Assoc.get? review.errors name = none := by
  obtain ⟨reviews, _, rfl⟩ := ofSheets_eq_ok_iff.mp reviewed
  rw [sheetNames_foldl_add] at unlisted
  have absent : ∀ result ∈ reviews, result.name ≠ name := by
    intro result present same
    exact unlisted (List.mem_append_right _ (same ▸ List.mem_map_of_mem present))
  rw [rows_foldl_add_eq_putAll, errors_foldl_add_eq_putAll]
  constructor
  · rw [← Assoc.ofPairs, Assoc.get?_ofPairs, get?_entries_eq_none_iff]
    exact fun result present same => absurd same (absent result present)
  · rw [← Assoc.ofPairs, Assoc.get?_ofPairs, get?_entries_eq_none_iff]
    exact fun result present same => absurd same (absent result present)

/-- Among sheets with a name there is a last one. -/
theorem exists_last_called {sheets : List Sheet} {name : String}
    (listed : name ∈ sheets.map Sheet.name) :
    ∃ before sheet after, sheets = before ++ sheet :: after ∧ sheet.name = name ∧
      ∀ later ∈ after, later.name ≠ name := by
  induction sheets with
  | nil => cases listed
  | cons first rest inductionHypothesis =>
    by_cases again : name ∈ rest.map Sheet.name
    · obtain ⟨before, sheet, after, rfl, named, last⟩ := inductionHypothesis again
      exact ⟨first :: before, sheet, after, rfl, named, last⟩
    · rcases List.mem_cons.mp listed with here | later
      · refine ⟨[], first, rest, rfl, here.symm, fun later present same => again ?_⟩
        rw [← same]
        exact List.mem_map_of_mem present
      · exact absurd later again

/-- What a review shows under each of its names belongs to the last sheet of that name exactly when
no earlier sheet of the name left rows where the last one was not processed, or errors where the
last one has none. -/
theorem shows_last_called_iff {sheets : List Sheet} {registry : Registry} {now : DateTime}
    {review : WorkbookReview} (reviewed : ofSheets site sheets registry now = .ok review)
    {name : String}
    (listed : name ∈ review.sheetNames) :
    ∃ before sheet after result, sheets = before ++ sheet :: after ∧ sheet.name = name ∧
      (∀ later ∈ after, later.name ≠ name) ∧
      SheetReview.ofSheet site sheet (registry.resolve name) now = .ok result ∧ result.name = name ∧
      (review.Shows result ↔
        ∀ earlier ∈ before, earlier.name = name → ∀ found,
          SheetReview.ofSheet site earlier (registry.resolve name) now = .ok found →
            (found.processed = true → result.processed = true) ∧
              (hasErrors found = true → hasErrors result = true)) := by
  rw [sheetNames_ofSheets reviewed] at listed
  obtain ⟨before, sheet, after, rfl, rfl, last⟩ := exists_last_called listed
  obtain ⟨reviews, results, rfl⟩ := ofSheets_eq_ok_iff.mp reviewed
  obtain ⟨front, others, beforeReviewed, othersReviewed, rfl⟩ :=
    Outcome.forall₂_append_left results
  obtain ⟨result, back, reviewedHere, afterReviewed, rfl⟩ :=
    List.forall₂_cons_left_iff.mp othersReviewed
  have named := name_of_ofSheet reviewedHere
  have lastReview : ∀ later ∈ back, later.name ≠ result.name := by
    intro later present
    obtain ⟨other, inAfter, otherReviewed⟩ :=
      Outcome.exists_of_mem_mapM (Outcome.mapM_eq_ok_iff.mpr afterReviewed) present
    rw [name_of_ofSheet otherReviewed, named]
    exact last other inAfter
  refine ⟨before, sheet, after, result, rfl, rfl, last, reviewedHere, named, ?_⟩
  rw [shows_iff lastReview, named]
  -- Reviews and sheets in front of the last one are matched, each review with its sheet.
  constructor
  · intro allowed earlier present same found foundReviewed
    obtain ⟨review, inFront, earlierReviewed⟩ :=
      Outcome.exists_answer_of_mem (Outcome.mapM_eq_ok_iff.mpr beforeReviewed) present
    have sameReview : review = found := by
      rw [same, foundReviewed] at earlierReviewed
      exact (Except.ok.inj earlierReviewed).symm
    rw [← sameReview]
    exact allowed review inFront ((name_of_ofSheet earlierReviewed).trans same)
  · intro allowed review inFront same
    obtain ⟨earlier, present, earlierReviewed⟩ :=
      Outcome.exists_of_mem_mapM (Outcome.mapM_eq_ok_iff.mpr beforeReviewed) inFront
    have earlierNamed : earlier.name = sheet.name :=
      (name_of_ofSheet earlierReviewed).symm.trans same
    rw [earlierNamed] at earlierReviewed
    exact allowed earlier present earlierNamed review earlierReviewed

/-- A sheet with all columns and one data row. -/
def sheetOfAnn : Sheet :=
  ⟨"S", [(0, "Name"), (1, "Amount"), (2, "Date"), (3, "Verified")],
    [⟨2, [(0, .text "Ann"), (1, .int 5), (2, .text "2024-01-15"), (3, .text "Yes")]⟩]⟩

/-- A sheet of the same name that lacks all columns. -/
def sheetOfOther : Sheet := ⟨"S", [(0, "Other")], []⟩

/-- The date in the data row. -/
def dayOfAnn : DateTime := .atMidnight ⟨2024, 1, 15, by decide⟩

/-- A site with a clock of universal time. -/
def siteOfAnn : Site := .universal dayOfAnn

theorem not_shows_sheet_without_columns :
    ∃ review result, ofSheets siteOfAnn [sheetOfAnn, sheetOfOther] .builtin dayOfAnn = .ok review ∧
      "S" ∈ review.sheetNames ∧
      SheetReview.ofSheet siteOfAnn sheetOfOther .builtin dayOfAnn = .ok result ∧
      result.processed = false ∧ ¬ review.Shows result := by
  have evaluated : (ofSheets siteOfAnn [sheetOfAnn, sheetOfOther] .builtin
      dayOfAnn).toOption.isSome = true := by decide +kernel
  have processed : (SheetReview.ofSheet siteOfAnn sheetOfAnn .builtin dayOfAnn).toOption.any
      SheetReview.processed = true := by decide +kernel
  obtain ⟨review, answered⟩ := Option.isSome_iff_exists.mp evaluated
  obtain ⟨found, foundAnswered, foundProcessed⟩ := (Option.any_eq_true _ _).mp processed
  have reviewed := Outcome.eq_ok_of_toOption answered
  have foundReviewed := Outcome.eq_ok_of_toOption foundAnswered
  have listed : "S" ∈ review.sheetNames := by
    rw [sheetNames_ofSheets reviewed]
    exact List.mem_cons_self
  obtain ⟨before, sheet, after, result, split, named, last, resultReviewed, _, showsIff⟩ :=
    shows_last_called_iff reviewed listed
  have places : before = [sheetOfAnn] ∧ sheet = sheetOfOther := by
    rcases before with _ | ⟨first, _ | ⟨second, others⟩⟩
    · obtain ⟨rfl, rfl⟩ := List.cons_eq_cons.mp split
      exact absurd rfl (last sheetOfOther List.mem_cons_self)
    · obtain ⟨rfl, rest⟩ := List.cons_eq_cons.mp split
      exact ⟨rfl, (List.cons_eq_cons.mp rest).1.symm⟩
    · simp at split
  obtain ⟨rfl, rfl⟩ := places
  have skipped : result.processed = false := by
    cases resultReviewed
    rfl
  refine ⟨review, result, reviewed, listed, resultReviewed, skipped, fun shown => ?_⟩
  have allowed := showsIff.mp shown sheetOfAnn List.mem_cons_self rfl found foundReviewed
  rw [allowed.1 foundProcessed] at skipped
  cases skipped

end SheetIntake.WorkbookReview
