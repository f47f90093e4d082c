import Mathlib.Data.List.Forall2

/-!
# Outcomes

An operation has an outcome: its answer, or why there is none. `mapM_eq_ok_iff` takes an outcome for
a whole list apart into the outcomes for its items, in order, and the lemmas before it do so for two
operations that follow each other. `mapM_eq_error_iff` says when a list has no answers, and why.
-/

namespace SheetIntake.Outcome

variable {ε α β : Type}

/-- A second operation answers when the first answers and the second answers to that. -/
theorem bind_eq_ok_iff {first : Except ε α} {second : α → Except ε β} {answer : β} :
    first >>= second = .ok answer ↔
      ∃ between, first = .ok between ∧ second between = .ok answer := by
  cases first with
  | error failure => simp [bind, Except.bind]
  | ok between => simp [bind, Except.bind]

/-- An answer that an outcome has is the outcome. -/
theorem eq_ok_of_toOption {outcome : Except ε α} {answer : α}
    (answered : outcome.toOption = some answer) : outcome = .ok answer := by
  cases outcome with
  | error failure => cases answered
  | ok given =>
    cases answered
    rfl

/-- An answer that is changed comes from an answer. -/
theorem map_eq_ok_iff {outcome : Except ε α} {change : α → β} {answer : β} :
    outcome.map change = .ok answer ↔ ∃ before, outcome = .ok before ∧ change before = answer := by
  cases outcome with
  | error failure => simp [Except.map]
  | ok before => simp [Except.map]

/-- An outcome is an answer when it is no failure. -/
theorem exists_ok_iff {outcome : Except ε α} :
    (∃ answer, outcome = .ok answer) ↔ ∀ failure, outcome ≠ .error failure := by
  cases outcome with
  | error failure => simp
  | ok answer => simp

/-- Two operations that follow each other fail when the first fails, or when the second fails for
what the first answers. -/
theorem bind_eq_error_iff {first : Except ε α} {second : α → Except ε β} {failure : ε} :
    first >>= second = .error failure ↔
      first = .error failure ∨ ∃ between, first = .ok between ∧
        second between = .error failure := by
  cases first with
  | error failure => simp [bind, Except.bind]
  | ok between => simp [bind, Except.bind]

/-- Two operations that follow each other answer when the second does for what the first answers. -/
theorem bind_answers_iff {first : Except ε α} {second : α → Except ε β} :
    (∃ answer, first >>= second = .ok answer) ↔
      ∃ between, first = .ok between ∧ ∃ answer, second between = .ok answer := by
  simp only [bind_eq_ok_iff]
  constructor
  · rintro ⟨answer, between, answered, last⟩
    exact ⟨between, answered, answer, last⟩
  · rintro ⟨between, answered, answer, last⟩
    exact ⟨answer, between, answered, last⟩

/-- There is a changed answer when there is an answer. -/
theorem map_answers_iff {outcome : Except ε α} {change : α → β} :
    (∃ answer, outcome.map change = .ok answer) ↔ ∃ answer, outcome = .ok answer := by
  cases outcome with
  | error failure => simp [Except.map]
  | ok answer => simp [Except.map]

/-- Changing the answer leaves failures as they are. -/
theorem map_eq_error_iff {outcome : Except ε α} {change : α → β} {failure : ε} :
    outcome.map change = .error failure ↔ outcome = .error failure := by
  cases outcome with
  | error other => simp [Except.map]
  | ok before => simp [Except.map]

/-- Changing the failure leaves answers as they are. -/
theorem mapError_eq_ok_iff {δ : Type} {outcome : Except ε α} {change : ε → δ} {answer : α} :
    outcome.mapError change = .ok answer ↔ outcome = .ok answer := by
  cases outcome with
  | error failure => simp [Except.mapError]
  | ok given => simp [Except.mapError]

/-- Two outcomes are the same but for their answers when they fail alike or both answer. -/
theorem forget_eq_iff {first second : Except ε α} :
    first.map (fun _ => ()) = second.map (fun _ => ()) ↔
      (∃ failure, first = .error failure ∧ second = .error failure) ∨
        (∃ answer, first = .ok answer) ∧ ∃ answer, second = .ok answer := by
  cases first <;> cases second <;> simp [Except.map, eq_comm]

/-- An answer for a list is an answer for its first item and one for the rest. -/
theorem mapM_cons_eq_ok_iff {operation : α → Except ε β} {item : α} {rest : List α}
    {answers : List β} :
    (item :: rest).mapM operation = .ok answers ↔
      ∃ answer others, operation item = .ok answer ∧ rest.mapM operation = .ok others ∧
        answers = answer :: others := by
  rw [List.mapM_cons, bind_eq_ok_iff]
  constructor
  · rintro ⟨answer, answered, more⟩
    obtain ⟨others, restAnswered, last⟩ := bind_eq_ok_iff.mp more
    cases last
    exact ⟨answer, others, answered, restAnswered, rfl⟩
  · rintro ⟨answer, others, answered, restAnswered, rfl⟩
    exact ⟨answer, answered, bind_eq_ok_iff.mpr ⟨others, restAnswered, rfl⟩⟩

/-- The answers for a list are the answers for its items, one for each and in their order. -/
theorem mapM_eq_ok_iff {operation : α → Except ε β} {items : List α} {answers : List β} :
    items.mapM operation = .ok answers ↔
      List.Forall₂ (fun item answer => operation item = .ok answer) items answers := by
  induction items generalizing answers with
  | nil =>
    rw [List.forall₂_nil_left_iff]
    constructor
    · intro answered
      cases answered
      rfl
    · rintro rfl
      rfl
  | cons item rest inductionHypothesis =>
    rw [mapM_cons_eq_ok_iff, List.forall₂_cons_left_iff]
    simp only [inductionHypothesis]

/-- What is matched with two lists one after the other falls into two parts, one for each. -/
theorem forall₂_append_left {relation : α → β → Prop} {front back : List α} {matched : List β}
    (all : List.Forall₂ relation (front ++ back) matched) :
    ∃ first second, List.Forall₂ relation front first ∧ List.Forall₂ relation back second ∧
      matched = first ++ second := by
  refine ⟨matched.take front.length, matched.drop front.length, ?_, ?_, ?_⟩
  · have taken := List.forall₂_take front.length all
    rwa [List.take_left] at taken
  · have dropped := List.forall₂_drop front.length all
    rwa [List.drop_left] at dropped
  · exact (List.take_append_drop _ _).symm

/-- Each item of a list is matched with one of the other. -/
theorem exists_matched_of_mem {relation : α → β → Prop} {items : List α} {others : List β}
    (matched : List.Forall₂ relation items others) {item : α} (present : item ∈ items) :
    ∃ other ∈ others, relation item other := by
  induction matched with
  | nil => cases present
  | cons here _ inductionHypothesis =>
    rcases List.mem_cons.mp present with rfl | later
    · exact ⟨_, List.mem_cons_self, here⟩
    · obtain ⟨other, inOthers, related⟩ := inductionHypothesis later
      exact ⟨other, List.mem_cons_of_mem _ inOthers, related⟩

/-- What holds of all items of two lists holds of those that are matched. -/
theorem forall₂_and {relation : α → β → Prop} {first : α → Prop} {second : β → Prop}
    {items : List α} {others : List β} (left : ∀ item ∈ items, first item)
    (right : ∀ other ∈ others, second other) (matched : List.Forall₂ relation items others) :
    List.Forall₂ (fun item other => first item ∧ second other ∧ relation item other) items
      others := by
  induction matched with
  | nil => exact .nil
  | cons here _ inductionHypothesis =>
    obtain ⟨leftHere, leftLater⟩ := List.forall_mem_cons.mp left
    obtain ⟨rightHere, rightLater⟩ := List.forall_mem_cons.mp right
    exact .cons ⟨leftHere, rightHere, here⟩ (inductionHypothesis leftLater rightLater)

/-- What is matched with the items of a list that is itself matched with another list. -/
theorem forall₂_trans {γ : Type} {first : α → β → Prop} {second : β → γ → Prop}
    {both : α → γ → Prop} (chain : ∀ item middle last, first item middle → second middle last →
      both item last) {items : List α} {middles : List β} {lasts : List γ}
    (matched : List.Forall₂ first items middles) (rematched : List.Forall₂ second middles lasts) :
    List.Forall₂ both items lasts := by
  induction matched generalizing lasts with
  | nil =>
    cases rematched
    exact .nil
  | cons here _ inductionHypothesis =>
    cases rematched with
    | cons there later => exact .cons (chain _ _ _ here there) (inductionHypothesis later)

/-- At each place of two matched lists stand items that are matched, or none. -/
theorem rel_getElem? {relation : α → β → Prop} {items : List α} {others : List β}
    (matched : List.Forall₂ relation items others) (place : Nat) :
    Option.Rel relation items[place]? others[place]? := by
  induction matched generalizing place with
  | nil => exact .none
  | cons here _ inductionHypothesis =>
    cases place with
    | zero => exact .some here
    | succ place => exact inductionHypothesis place

theorem rel_bind {γ δ : Type} {relation : α → β → Prop} {next : γ → δ → Prop} {item : Option α}
    {other : Option β} {left : α → Option γ} {right : β → Option δ}
    (related : Option.Rel relation item other)
    (step : ∀ item other, relation item other → Option.Rel next (left item) (right other)) :
    Option.Rel next (item.bind left) (other.bind right) := by
  cases related with
  | none => exact .none
  | some here => exact step _ _ here

/-- Operations that agree on the items of a list have the same outcome for the list. -/
theorem mapM_congr {operation other : α → Except ε β} {items : List α}
    (agree : ∀ item ∈ items, operation item = other item) :
    items.mapM operation = items.mapM other := by
  induction items with
  | nil => rfl
  | cons item rest inductionHypothesis =>
    obtain ⟨here, later⟩ := List.forall_mem_cons.mp agree
    rw [List.mapM_cons, List.mapM_cons, here, inductionHypothesis later]

/-- Operations that agree on matched items have the same outcome for the lists. -/
theorem mapM_eq_of_forall₂ {γ : Type} {operation : α → Except ε β} {other : γ → Except ε β}
    {items : List α} {matched : List γ}
    (agree : List.Forall₂ (fun item partner => operation item = other partner) items matched) :
    items.mapM operation = matched.mapM other := by
  induction agree with
  | nil => rfl
  | cons here _ inductionHypothesis =>
    rw [List.mapM_cons, List.mapM_cons, here, inductionHypothesis]

/-- When every item has an answer, so has the list. -/
theorem mapM_eq_ok_map {operation : α → Except ε β} {answer : α → β} {items : List α}
    (answered : ∀ item ∈ items, operation item = .ok (answer item)) :
    items.mapM operation = .ok (items.map answer) := by
  rw [mapM_eq_ok_iff, List.forall₂_map_right_iff, List.forall₂_same]
  exact answered

/-- The answers for a list are known from what the answer for each item is. -/
theorem answers_eq_map {operation : α → Except ε β} {answer : α → β} {items : List α}
    {answers : List β} (answered : items.mapM operation = .ok answers)
    (known : ∀ item given, operation item = .ok given → answer item = given) :
    answers = items.map answer := by
  have equal : List.Forall₂ Eq (items.map answer) answers := by
    rw [List.forall₂_map_left_iff]
    apply (mapM_eq_ok_iff.mp answered).imp
    intro item given itemAnswered
    exact known item given itemAnswered
  rw [List.forall₂_eq_eq_eq] at equal
  exact equal.symm

/-- Each answer for a list is the answer for an item of it. -/
theorem exists_of_mem_mapM {operation : α → Except ε β} {items : List α} {answers : List β}
    (answered : items.mapM operation = .ok answers) {answer : β} (present : answer ∈ answers) :
    ∃ item ∈ items, operation item = .ok answer :=
  exists_matched_of_mem (mapM_eq_ok_iff.mp answered).flip present

/-- Each item of a list has its answer among those for the list. -/
theorem exists_answer_of_mem {operation : α → Except ε β} {items : List α} {answers : List β}
    (answered : items.mapM operation = .ok answers) {item : α} (present : item ∈ items) :
    ∃ answer ∈ answers, operation item = .ok answer :=
  exists_matched_of_mem (mapM_eq_ok_iff.mp answered) present

/-- A list has no answers exactly when some item has none, and then it fails as the first such item
does. -/
theorem mapM_eq_error_iff {operation : α → Except ε β} {items : List α} {failure : ε} :
    items.mapM operation = .error failure ↔
      ∃ before item after, items = before ++ item :: after ∧
        (∀ earlier ∈ before, ∃ answer, operation earlier = .ok answer) ∧
        operation item = .error failure := by
  induction items with
  | nil =>
    constructor
    · intro failed
      cases failed
    · rintro ⟨before, item, after, split, _⟩
      simp at split
  | cons first rest inductionHypothesis =>
    have unfolded : (first :: rest).mapM operation = .error failure ↔
        operation first = .error failure ∨
          ∃ answer, operation first = .ok answer ∧ rest.mapM operation = .error failure := by
      rw [List.mapM_cons, bind_eq_error_iff]
      simp only [bind_eq_error_iff]
      simp [pure, Except.pure]
    rw [unfolded, inductionHypothesis]
    constructor
    · rintro (here | ⟨answer, answered, before, item, after, rfl, earlier, failed⟩)
      · exact ⟨[], first, rest, rfl, by simp, here⟩
      · exact ⟨first :: before, item, after, rfl,
          List.forall_mem_cons.mpr ⟨⟨answer, answered⟩, earlier⟩, failed⟩
    · rintro ⟨before, item, after, split, earlier, failed⟩
      cases before with
      | nil =>
        cases split
        exact .inl failed
      | cons head tail =>
        cases split
        obtain ⟨⟨answer, answered⟩, others⟩ := List.forall_mem_cons.mp earlier
        exact .inr ⟨answer, answered, tail, item, after, rfl, others, failed⟩

/-- A list has answers exactly when every item has one. -/
theorem mapM_answers_iff {operation : α → Except ε β} {items : List α} :
    (∃ answers, items.mapM operation = .ok answers) ↔
      ∀ item ∈ items, ∃ answer, operation item = .ok answer := by
  constructor
  · rintro ⟨answers, answered⟩ item present
    obtain ⟨answer, _, itemAnswered⟩ := exists_answer_of_mem answered present
    exact ⟨answer, itemAnswered⟩
  · intro each
    rw [exists_ok_iff]
    intro failure failed
    obtain ⟨before, item, after, rfl, _, itemFailed⟩ := mapM_eq_error_iff.mp failed
    obtain ⟨answer, answered⟩ := each item (List.mem_append_right _ List.mem_cons_self)
    rw [answered] at itemFailed
    cases itemFailed

end SheetIntake.Outcome
