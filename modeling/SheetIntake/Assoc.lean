/-!
# Ordered maps

A map is a list of keys with values, in the order in which the keys came. Putting a value under a
key that is already there replaces the value and keeps the place of the key. The lemmas say what
each operation does to look-ups and to the list of keys.
-/

namespace SheetIntake.Assoc

variable {κ α : Type} [DecidableEq κ]

/-- The value under a key. -/
def get? (entries : List (κ × α)) (key : κ) : Option α :=
  match entries with
  | [] => none
  | (other, value) :: rest => if other = key then some value else get? rest key

/-- The keys, in order. -/
def keys (entries : List (κ × α)) : List κ :=
  entries.map Prod.fst

/-- The values, in order. -/
def values (entries : List (κ × α)) : List α :=
  entries.map Prod.snd

/-- Whether there is a value under a key. -/
def contains (entries : List (κ × α)) (key : κ) : Bool :=
  (get? entries key).isSome

/-- Puts a value under a key: in the place of the key if it is there, else at the end. -/
def put (entries : List (κ × α)) (key : κ) (value : α) : List (κ × α) :=
  match entries with
  | [] => [(key, value)]
  | (other, old) :: rest =>
    if other = key then (key, value) :: rest else (other, old) :: put rest key value

/-- Puts the pairs of a list one after the other. -/
def putAll (entries pairs : List (κ × α)) : List (κ × α) :=
  pairs.foldl (fun current pair => put current pair.1 pair.2) entries

/-- The map of a list of pairs. A repeated key has its first place and its last value. -/
def ofPairs (pairs : List (κ × α)) : List (κ × α) :=
  putAll [] pairs

/-- Removes repetitions, keeping the first of each. -/
def distinct (keys : List κ) : List κ :=
  keys.foldl (fun seen key => if key ∈ seen then seen else seen ++ [key]) []

@[simp] theorem get?_nil (key : κ) : get? ([] : List (κ × α)) key = none := rfl

theorem get?_cons (entry : κ × α) (rest : List (κ × α)) (key : κ) :
    get? (entry :: rest) key = if entry.1 = key then some entry.2 else get? rest key := rfl

@[simp] theorem get?_put_self (entries : List (κ × α)) (key : κ) (value : α) :
    get? (put entries key value) key = some value := by
  induction entries with
  | nil => simp [put, get?]
  | cons entry rest inductionHypothesis =>
    obtain ⟨other, old⟩ := entry
    by_cases same : other = key
    · simp [put, get?, same]
    · simp [put, get?, same, inductionHypothesis]

theorem get?_put_of_ne (entries : List (κ × α)) {key asked : κ} (value : α)
    (differs : key ≠ asked) : get? (put entries key value) asked = get? entries asked := by
  induction entries with
  | nil => simp [put, get?, differs]
  | cons entry rest inductionHypothesis =>
    obtain ⟨other, old⟩ := entry
    by_cases same : other = key
    · subst same
      simp [put, get?, differs]
    · simp only [put, same, ↓reduceIte, get?_cons, inductionHypothesis]

theorem get?_put (entries : List (κ × α)) (key asked : κ) (value : α) :
    get? (put entries key value) asked =
      if key = asked then some value else get? entries asked := by
  by_cases same : key = asked
  · subst same; simp
  · simp [same, get?_put_of_ne]

/-- What is found in two lists one after the other is found in the first, or else in the second. -/
theorem get?_append (front back : List (κ × α)) (key : κ) :
    get? (front ++ back) key = (get? front key).or (get? back key) := by
  induction front with
  | nil => rw [List.nil_append, get?_nil, Option.none_or]
  | cons entry rest inductionHypothesis =>
    rw [List.cons_append, get?_cons, get?_cons, inductionHypothesis]
    split
    · rw [Option.some_or]
    · rfl

/-- A key has a value exactly when it is one of the keys. -/
theorem isSome_get?_iff (entries : List (κ × α)) (key : κ) :
    (get? entries key).isSome = true ↔ key ∈ keys entries := by
  induction entries with
  | nil => simp [keys]
  | cons entry rest inductionHypothesis =>
    by_cases same : entry.1 = key
    · simp [get?_cons, keys, same]
    · have other : ¬ key = entry.1 := fun equal => same equal.symm
      simpa [get?_cons, keys, same, other] using inductionHypothesis

theorem get?_eq_none_iff (entries : List (κ × α)) (key : κ) :
    get? entries key = none ↔ key ∉ keys entries := by
  rw [← isSome_get?_iff]
  cases get? entries key <;> simp

/-- A value that is found stands in the list under its key. -/
theorem mem_of_get? {entries : List (κ × α)} {key : κ} {value : α}
    (found : get? entries key = some value) : (key, value) ∈ entries := by
  induction entries with
  | nil => simp at found
  | cons entry rest inductionHypothesis =>
    obtain ⟨other, held⟩ := entry
    rw [get?_cons] at found
    by_cases same : other = key
    · simp_all
    · simp only [same, ↓reduceIte] at found
      exact List.mem_cons_of_mem _ (inductionHypothesis found)

/-- Where no key is repeated, a value stands in the list under its key exactly when it is found. -/
theorem get?_eq_some_iff_mem {entries : List (κ × α)} (distinctKeys : (keys entries).Nodup)
    {key : κ} {value : α} : get? entries key = some value ↔ (key, value) ∈ entries := by
  refine ⟨mem_of_get?, fun present => ?_⟩
  induction entries with
  | nil => cases present
  | cons entry rest inductionHypothesis =>
    obtain ⟨absent, restDistinct⟩ := List.nodup_cons.mp distinctKeys
    rw [get?_cons]
    rcases List.mem_cons.mp present with rfl | later
    · rw [if_pos rfl]
    · have differs : entry.1 ≠ key := by
        intro same
        exact absent (same ▸ List.mem_map_of_mem later)
      rw [if_neg differs]
      exact inductionHypothesis restDistinct later

/-- Changing the values changes what is found and nothing else. -/
theorem get?_map {β : Type} (change : α → β) (entries : List (κ × α)) (key : κ) :
    get? (entries.map fun entry => (entry.1, change entry.2)) key =
      (get? entries key).map change := by
  induction entries with
  | nil => rfl
  | cons entry rest inductionHypothesis =>
    rw [List.map_cons, get?_cons, get?_cons, inductionHypothesis]
    split
    · rfl
    · rfl

/-- Putting a value adds its key at the end unless the key is there. -/
theorem keys_put (entries : List (κ × α)) (key : κ) (value : α) :
    keys (put entries key value) =
      if key ∈ keys entries then keys entries else keys entries ++ [key] := by
  induction entries with
  | nil => simp [put, keys]
  | cons entry rest inductionHypothesis =>
    obtain ⟨other, old⟩ := entry
    by_cases same : other = key
    · simp [put, keys, same]
    · have differs : ¬ key = other := fun equal => same equal.symm
      simp only [keys] at inductionHypothesis
      simp only [put, same, ↓reduceIte, keys, List.map_cons, inductionHypothesis, List.mem_cons,
        differs, false_or]
      by_cases present : key ∈ rest.map Prod.fst <;> simp [present]

/-- A value under a key that is not there is put at the end. -/
theorem put_of_notMem {entries : List (κ × α)} {key : κ} (absent : key ∉ keys entries)
    (value : α) : put entries key value = entries ++ [(key, value)] := by
  induction entries with
  | nil => rfl
  | cons entry rest inductionHypothesis =>
    obtain ⟨other, old⟩ := entry
    obtain ⟨differs, restAbsent⟩ : key ≠ other ∧ key ∉ keys rest := by simpa [keys] using absent
    rw [put, if_neg (Ne.symm differs), inductionHypothesis restAbsent, List.cons_append]

theorem nodup_keys_put {entries : List (κ × α)} (distinctKeys : (keys entries).Nodup) (key : κ)
    (value : α) : (keys (put entries key value)).Nodup := by
  rw [keys_put]
  split
  · exact distinctKeys
  · next absent =>
    rw [List.nodup_append]
    exact ⟨distinctKeys, by simp, by
      intro left memberLeft right memberRight
      simp only [List.mem_singleton] at memberRight
      subst memberRight
      exact fun equal => absent (equal ▸ memberLeft)⟩

theorem nodup_keys_putAll {entries : List (κ × α)} (distinctKeys : (keys entries).Nodup)
    (pairs : List (κ × α)) : (keys (putAll entries pairs)).Nodup := by
  induction pairs generalizing entries with
  | nil => exact distinctKeys
  | cons pair rest inductionHypothesis =>
    exact inductionHypothesis (nodup_keys_put distinctKeys pair.1 pair.2)

/-- The keys of a map made from pairs are distinct. -/
theorem nodup_keys_ofPairs (pairs : List (κ × α)) : (keys (ofPairs pairs)).Nodup :=
  nodup_keys_putAll (by simp [keys]) pairs

/-- Pairs with new and distinct keys are put at the end, one after the other. -/
theorem putAll_of_nodup {entries pairs : List (κ × α)}
    (distinctKeys : (keys (entries ++ pairs)).Nodup) : putAll entries pairs = entries ++ pairs := by
  induction pairs generalizing entries with
  | nil => exact (List.append_nil entries).symm
  | cons pair rest inductionHypothesis =>
    have absent : pair.1 ∉ keys entries := by
      rw [keys, List.map_append, List.nodup_append] at distinctKeys
      intro present
      exact distinctKeys.2.2 pair.1 present pair.1 List.mem_cons_self rfl
    have shape : entries ++ pair :: rest = entries ++ [pair] ++ rest :=
      List.append_cons entries pair rest
    rw [shape] at distinctKeys ⊢
    rw [← inductionHypothesis distinctKeys, ← put_of_notMem absent pair.2]
    rfl

/-- Pairs with distinct keys are a map already. -/
theorem ofPairs_of_nodup {pairs : List (κ × α)} (distinctKeys : (keys pairs).Nodup) :
    ofPairs pairs = pairs := by
  rw [ofPairs, putAll_of_nodup, List.nil_append]
  exact distinctKeys

/-- What is in a map after a value is put was there or is the value under its key. -/
theorem mem_of_mem_put {entries : List (κ × α)} {key : κ} {value : α} {entry : κ × α}
    (present : entry ∈ put entries key value) : entry = (key, value) ∨ entry ∈ entries := by
  induction entries with
  | nil => exact .inl (List.mem_singleton.mp present)
  | cons first rest inductionHypothesis =>
    obtain ⟨other, old⟩ := first
    rw [put] at present
    split at present
    · rcases List.mem_cons.mp present with here | later
      · exact .inl here
      · exact .inr (List.mem_cons_of_mem _ later)
    · rcases List.mem_cons.mp present with rfl | later
      · exact .inr List.mem_cons_self
      · rcases inductionHypothesis later with here | there
        · exact .inl here
        · exact .inr (List.mem_cons_of_mem _ there)

theorem mem_of_mem_putAll {entries pairs : List (κ × α)} {entry : κ × α}
    (present : entry ∈ putAll entries pairs) : entry ∈ entries ∨ entry ∈ pairs := by
  induction pairs generalizing entries with
  | nil => exact .inl present
  | cons pair rest inductionHypothesis =>
    rcases inductionHypothesis present with before | later
    · rcases mem_of_mem_put before with rfl | there
      · exact .inr List.mem_cons_self
      · exact .inl there
    · exact .inr (List.mem_cons_of_mem _ later)

/-- A map made from pairs has no others. -/
theorem mem_of_mem_ofPairs {pairs : List (κ × α)} {entry : κ × α}
    (present : entry ∈ ofPairs pairs) : entry ∈ pairs := by
  rcases mem_of_mem_putAll present with none | some
  · cases none
  · exact some

theorem get?_putAll (entries pairs : List (κ × α)) (key : κ) :
    get? (putAll entries pairs) key = (get? pairs.reverse key).or (get? entries key) := by
  induction pairs generalizing entries with
  | nil => simp [putAll]
  | cons pair rest inductionHypothesis =>
    have step : putAll entries (pair :: rest) = putAll (put entries pair.1 pair.2) rest := rfl
    rw [step, inductionHypothesis, List.reverse_cons, get?_append, get?_put, get?_cons]
    cases get? rest.reverse key <;> by_cases same : pair.1 = key <;> simp [same]

/-- In a map made from pairs, a key has its last value. -/
theorem get?_ofPairs (pairs : List (κ × α)) (key : κ) :
    get? (ofPairs pairs) key = get? pairs.reverse key := by
  simp [ofPairs, get?_putAll]

end SheetIntake.Assoc
