import SheetIntake.Proofs.Outcome
import SheetIntake.Sheet.Review

/-!
# What a workbook review holds

A workbook review is made from the reviews of its sheets, one after the other. No sheet stands in it
twice. When the sheets have different names it has the rows of every sheet that was processed, in
sheet order, and for every sheet the errors that were found in it.
-/

namespace SheetIntake.WorkbookReview

open Calendar

variable {site : Site}

/-- The errors of a sheet. -/
def errorsOf (review : WorkbookReview) (sheet : String) : List RowError :=
  (Assoc.get? review.errors sheet).getD []

/-- Sheets are reviewed one by one and their reviews put together. -/
theorem ofSheets_eq_ok_iff {sheets : List Sheet} {registry : Registry} {now : DateTime}
    {review : WorkbookReview} :
    ofSheets site sheets registry now = .ok review ↔
      ∃ reviews, List.Forall₂ (fun sheet result =>
          SheetReview.ofSheet site sheet (registry.resolve sheet.name) now = .ok result)
          sheets reviews ∧
        review = reviews.foldl add {} := by
  rw [ofSheets]
  generalize ({} : WorkbookReview) = start
  induction sheets generalizing start with
  | nil =>
    constructor
    · intro same
      cases same
      exact ⟨[], .nil, rfl⟩
    · rintro ⟨reviews, none, rfl⟩
      cases none
      rfl
  | cons sheet rest inductionHypothesis =>
    rw [List.foldlM_cons, Outcome.bind_eq_ok_iff]
    constructor
    · rintro ⟨between, firstAdded, restAdded⟩
      obtain ⟨first, reviewed, added⟩ := Outcome.bind_eq_ok_iff.mp firstAdded
      cases added
      obtain ⟨others, restReviewed, equal⟩ := (inductionHypothesis _).mp restAdded
      exact ⟨first :: others, .cons reviewed restReviewed, equal⟩
    · rintro ⟨reviews, reviewed, rfl⟩
      cases reviewed with
      | cons firstReviewed restReviewed =>
        refine ⟨_, Outcome.bind_eq_ok_iff.mpr ⟨_, firstReviewed, rfl⟩, ?_⟩
        exact (inductionHypothesis _).mpr ⟨_, restReviewed, rfl⟩

/-- The review of a sheet has the name of the sheet. -/
theorem name_of_ofSheet {sheet : Sheet} {schema : Schema} {now : DateTime} {result : SheetReview}
    (reviewed : SheetReview.ofSheet site sheet schema now = .ok result) :
    result.name = sheet.name := by
  unfold SheetReview.ofSheet at reviewed
  dsimp only at reviewed
  split at reviewed
  · cases reviewed
    rfl
  · obtain ⟨_, _, last⟩ := Outcome.bind_eq_ok_iff.mp reviewed
    cases last
    rfl

/-- A sheet that is processed has a mapped row for each of its data rows, in their order. -/
theorem forall₂_mapRow_of_ofSheet {sheet : Sheet} {schema : Schema} {now : DateTime}
    {result : SheetReview} (reviewed : SheetReview.ofSheet site sheet schema now = .ok result)
    (processed : result.processed = true) :
    List.Forall₂ (fun row fields =>
      mapRow site (Sheet.namedRow sheet.header row.cells) schema = .ok fields)
      sheet.rows result.rows := by
  unfold SheetReview.ofSheet at reviewed
  dsimp only at reviewed
  split at reviewed
  · cases reviewed
    cases processed
  · obtain ⟨found, answered, last⟩ := Outcome.bind_eq_ok_iff.mp reviewed
    cases last
    rw [List.forall₂_map_right_iff]
    apply (Outcome.mapM_eq_ok_iff.mp answered).imp
    intro row answer rowReviewed
    obtain ⟨errors, _, rest⟩ := Outcome.bind_eq_ok_iff.mp rowReviewed
    obtain ⟨mapped, rowMapped, last⟩ := Outcome.bind_eq_ok_iff.mp rest
    cases last
    exact rowMapped

/-- The reviews of sheets have the names of the sheets. -/
theorem names_of_reviews {sheets : List Sheet} {reviews : List SheetReview} {registry : Registry}
    {now : DateTime} (reviewed : List.Forall₂ (fun sheet result =>
      SheetReview.ofSheet site sheet (registry.resolve sheet.name) now = .ok result)
      sheets reviews) :
    reviews.map SheetReview.name = sheets.map Sheet.name := by
  induction reviewed with
  | nil => rfl
  | cons here _ inductionHypothesis =>
    rw [List.map_cons, List.map_cons, name_of_ofSheet here, inductionHypothesis]

/-- No sheet has its rows twice. -/
theorem nodup_keys_rows_foldl_add {review : WorkbookReview}
    (distinct : (Assoc.keys review.rows).Nodup) (reviews : List SheetReview) :
    (Assoc.keys (reviews.foldl add review).rows).Nodup := by
  induction reviews generalizing review with
  | nil => exact distinct
  | cons first rest inductionHypothesis =>
    apply inductionHypothesis
    simp only [add]
    split
    · exact Assoc.nodup_keys_put distinct first.name first.rows
    · exact distinct

theorem nodup_keys_rows_ofSheets {sheets : List Sheet} {registry : Registry} {now : DateTime}
    {review : WorkbookReview} (reviewed : ofSheets site sheets registry now = .ok review) :
    (Assoc.keys review.rows).Nodup := by
  obtain ⟨reviews, _, rfl⟩ := ofSheets_eq_ok_iff.mp reviewed
  have nothing : (Assoc.keys (rows {})).Nodup := List.nodup_nil
  exact nodup_keys_rows_foldl_add nothing reviews

/-- Sheets of different names keep the order in which they are processed. -/
theorem rows_foldl_add {review : WorkbookReview} {reviews : List SheetReview}
    (distinct : (reviews.map SheetReview.name).Nodup)
    (absent : ∀ result ∈ reviews, result.name ∉ Assoc.keys review.rows) :
    (reviews.foldl add review).rows = review.rows ++
      (reviews.filter SheetReview.processed).map fun result => (result.name, result.rows) := by
  induction reviews generalizing review with
  | nil => rw [List.foldl_nil, List.filter_nil, List.map_nil, List.append_nil]
  | cons first rest inductionHypothesis =>
    obtain ⟨firstAbsent, restDistinct⟩ := List.nodup_cons.mp distinct
    obtain ⟨firstNew, restNew⟩ := List.forall_mem_cons.mp absent
    have added : (review.add first).rows = review.rows ++
        ([first].filter SheetReview.processed).map fun result => (result.name, result.rows) := by
      simp only [add]
      split
      · next processed => rw [Assoc.put_of_notMem firstNew, List.filter_cons_of_pos processed]; rfl
      · next skipped => rw [List.filter_cons_of_neg skipped]; exact (List.append_nil _).symm
    have stillNew : ∀ result ∈ rest, result.name ∉ Assoc.keys (review.add first).rows := by
      intro result present known
      rw [added, Assoc.keys, List.map_append, List.mem_append] at known
      rcases known with old | new
      · exact restNew result present old
      · simp only [List.mem_map, List.mem_filter, List.mem_singleton] at new
        obtain ⟨_, ⟨held, ⟨rfl, _⟩, rfl⟩, equal⟩ := new
        have sameName : held.name = result.name := equal
        apply firstAbsent
        rw [sameName]
        exact List.mem_map_of_mem present
    rw [List.foldl_cons, inductionHypothesis restDistinct stillNew, added, List.append_assoc,
      ← List.map_append, ← List.filter_append, List.singleton_append]

/-- A sheet that is not among those added keeps its errors. -/
theorem get?_errors_foldl_add_of_notMem {review : WorkbookReview} {reviews : List SheetReview}
    {sheet : String} (absent : sheet ∉ reviews.map SheetReview.name) :
    Assoc.get? (reviews.foldl add review).errors sheet = Assoc.get? review.errors sheet := by
  induction reviews generalizing review with
  | nil => rfl
  | cons first rest inductionHypothesis =>
    rw [List.map_cons, List.mem_cons, not_or] at absent
    rw [List.foldl_cons, inductionHypothesis absent.2]
    simp only [add]
    split
    · exact Assoc.get?_put_of_ne _ _ (Ne.symm absent.1)
    · rfl

/-- Every sheet has the errors that were found in it. -/
theorem errorsOf_foldl_add {review : WorkbookReview} {reviews : List SheetReview}
    (distinct : (reviews.map SheetReview.name).Nodup)
    (absent : ∀ result ∈ reviews, Assoc.get? review.errors result.name = none)
    {result : SheetReview} (present : result ∈ reviews) :
    (reviews.foldl add review).errorsOf result.name = result.errors := by
  induction reviews generalizing review with
  | nil => cases present
  | cons first rest inductionHypothesis =>
    obtain ⟨firstAbsent, restDistinct⟩ := List.nodup_cons.mp distinct
    obtain ⟨firstNew, restNew⟩ := List.forall_mem_cons.mp absent
    rw [List.foldl_cons]
    rcases List.mem_cons.mp present with rfl | later
    · rw [errorsOf, get?_errors_foldl_add_of_notMem firstAbsent]
      simp only [add]
      split
      · rw [Assoc.get?_put_self, Option.getD_some]
      · next none => rw [firstNew, Option.getD_none, not_not.mp none]
    · apply inductionHypothesis restDistinct _ later
      intro other otherPresent
      have differs : first.name ≠ other.name := by
        intro equal
        exact firstAbsent (equal ▸ List.mem_map_of_mem otherPresent)
      simp only [add]
      split
      · rw [Assoc.get?_put_of_ne _ _ differs, restNew other otherPresent]
      · exact restNew other otherPresent

end SheetIntake.WorkbookReview
