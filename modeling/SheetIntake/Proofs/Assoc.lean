import Mathlib.Data.List.Forall2
import Mathlib.Data.List.Induction
import Mathlib.Data.List.Nodup
import SheetIntake.Assoc

/-!
# Maps side by side

Two maps may agree key by key, in the same order. Then they have the same keys, and under each of
these the values that stand side by side.
-/

namespace SheetIntake.Assoc

variable {α β : Type}

/-- Entries under some keys are found among all entries, and no others are. -/
theorem get?_filter (entries : List (String × α)) (kept : String → Bool) (key : String) :
    get? (entries.filter fun entry => kept entry.1) key =
      if kept key then get? entries key else none := by
  induction entries with
  | nil => simp
  | cons entry rest inductionHypothesis =>
    rw [List.filter_cons]
    by_cases same : entry.1 = key
    · cases keeps : kept key with
      | true => simp [get?_cons, same, keeps]
      | false => simp [same, keeps, inductionHypothesis]
    · cases keeps : kept entry.1 with
      | true => simp [get?_cons, same, inductionHypothesis]
      | false => simp [get?_cons, same, inductionHypothesis]

section

variable {κ : Type}

/-- The order of entries with distinct keys does not matter. -/
theorem get?_perm [DecidableEq κ] {entries others : List (κ × α)} (once : (keys entries).Nodup)
    (reordered : others.Perm entries) (key : κ) : get? others key = get? entries key := by
  have alsoOnce : (keys others).Nodup := (reordered.map Prod.fst).nodup_iff.mpr once
  ext value
  rw [get?_eq_some_iff_mem alsoOnce, get?_eq_some_iff_mem once, reordered.mem_iff]

/-- What is found under a key is found under its new name when no two keys are renamed alike. -/
theorem get?_rename [DecidableEq κ] {rename : κ → κ} (injective : Function.Injective rename)
    (entries : List (κ × α)) (key : κ) :
    get? (entries.map fun entry => (rename entry.1, entry.2)) (rename key) = get? entries key := by
  induction entries with
  | nil => rfl
  | cons entry rest inductionHypothesis =>
    simp only [List.map_cons, get?_cons, inductionHypothesis, injective.eq_iff]

/-- Renaming keeps keys distinct when no two keys are renamed alike. -/
theorem nodup_keys_rename {rename : κ → κ} (injective : Function.Injective rename)
    {entries : List (κ × α)} (once : (keys entries).Nodup) :
    (keys (entries.map fun entry => (rename entry.1, entry.2))).Nodup := by
  have renamed : keys (entries.map fun entry => (rename entry.1, entry.2)) =
      (keys entries).map rename := by
    simp [keys]
  rw [renamed]
  exact once.map injective

/-- A value that is there once is there under one key. -/
theorem key_unique {entries : List (κ × α)} (once : (values entries).Nodup) {key other : κ}
    {value : α} (present : (key, value) ∈ entries) (otherPresent : (other, value) ∈ entries) :
    key = other :=
  congrArg Prod.fst (List.inj_on_of_nodup_map once present otherPresent rfl)

end

/-- Keys without repetitions stay as they are. -/
theorem distinct_of_nodup {κ : Type} [DecidableEq κ] {names : List κ} (once : names.Nodup) :
    distinct names = names := by
  have run : ∀ (seen rest : List κ), (seen ++ rest).Nodup →
      rest.foldl (fun seen key => if key ∈ seen then seen else seen ++ [key]) seen =
        seen ++ rest := by
    intro seen rest
    induction rest generalizing seen with
    | nil => simp
    | cons key rest inductionHypothesis =>
      intro distinctAll
      have new : key ∉ seen := by
        intro present
        rw [List.nodup_append] at distinctAll
        exact distinctAll.2.2 key present key List.mem_cons_self rfl
      have shape : seen ++ key :: rest = seen ++ [key] ++ rest := List.append_cons seen key rest
      rw [shape] at distinctAll ⊢
      rw [List.foldl_cons, if_neg new, inductionHypothesis _ distinctAll]
  exact run [] names once

section

variable {κ : Type} [DecidableEq κ]

/-- One more key stands at the end unless it is there. -/
theorem distinct_append_singleton (names : List κ) (name : κ) :
    distinct (names ++ [name]) =
      if name ∈ distinct names then distinct names else distinct names ++ [name] := by
  rw [distinct, List.foldl_append, List.foldl_cons, List.foldl_nil]
  rfl

/-- Removing repetitions keeps each key where it comes first. -/
theorem distinct_eq_eraseDups (names : List κ) : distinct names = names.eraseDups := by
  induction names using List.reverseRecOn with
  | nil => rfl
  | append_singleton names name inductionHypothesis =>
    rw [distinct_append_singleton, inductionHypothesis, List.eraseDups_append]
    by_cases present : name ∈ names
    · simp [present, List.removeAll]
    · simp [present, List.removeAll, List.eraseDups_cons]

theorem nodup_distinct (names : List κ) : (distinct names).Nodup := by
  induction names using List.reverseRecOn with
  | nil => exact .nil
  | append_singleton names name inductionHypothesis =>
    rw [distinct_append_singleton]
    split
    · exact inductionHypothesis
    · next new =>
      rw [List.nodup_append]
      refine ⟨inductionHypothesis, List.nodup_singleton name, ?_⟩
      rintro other present _ isName rfl
      exact new (List.mem_singleton.mp isName ▸ present)

end

section

variable {relation : String × α → String × β → Prop} {entries : List (String × α)}
  {others : List (String × β)}

/-- Maps that agree key by key have the same keys. -/
theorem keys_eq_of_forall₂ (agree : List.Forall₂ relation entries others)
    (sameKey : ∀ entry other, relation entry other → entry.1 = other.1) :
    keys entries = keys others := by
  rw [keys, keys, ← List.forall₂_eq_eq_eq, List.forall₂_map_left_iff, List.forall₂_map_right_iff]
  exact agree.imp sameKey

/-- Under a key, maps that agree key by key have no values or values that agree. -/
theorem get?_of_forall₂ (agree : List.Forall₂ relation entries others)
    (sameKey : ∀ entry other, relation entry other → entry.1 = other.1) (key : String) :
    get? entries key = none ∧ get? others key = none ∨
      ∃ value other, get? entries key = some value ∧ get? others key = some other ∧
        relation (key, value) (key, other) := by
  induction agree with
  | nil => exact .inl ⟨rfl, rfl⟩
  | @cons entry other entries others here _ inductionHypothesis =>
    have same := sameKey entry other here
    rw [get?_cons, get?_cons, ← same]
    split
    · next isKey =>
      subst isKey
      refine .inr ⟨entry.2, other.2, rfl, rfl, ?_⟩
      have shape : (entry.1, other.2) = other := Prod.ext same rfl
      rw [shape]
      exact here
    · exact inductionHypothesis

end

end SheetIntake.Assoc
