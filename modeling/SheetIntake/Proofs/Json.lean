import SheetIntake.Json
import SheetIntake.Proofs.Outcome

/-!
# Values of JSON texts

An object of a JSON text may name a member again, and then only the last value counts. So no record
in the value of a text names a field twice, however deep it stands (`namesDistinct_of_parse`). The
proof follows the three readers that call one another; the fuel that they share carries it.
-/

namespace SheetIntake

/-- No record in a value names a field twice. -/
inductive Value.NamesDistinct : Value → Prop
  | plain {value : Value} (noList : ∀ items, value ≠ .list items)
    (noRecord : ∀ fields, value ≠ .record fields) : NamesDistinct value
  | list {items : List Value} (each : ∀ item ∈ items, NamesDistinct item) :
    NamesDistinct (.list items)
  | record {fields : Row} (distinct : (Assoc.keys fields).Nodup)
    (each : ∀ entry ∈ fields, NamesDistinct entry.2) : NamesDistinct (.record fields)

namespace Value.NamesDistinct

/-- The fields of a record are named once. -/
theorem keys_nodup {fields : Row} (named : (Value.record fields).NamesDistinct) :
    (Assoc.keys fields).Nodup := by
  cases named with
  | plain noList noRecord => exact absurd rfl (noRecord fields)
  | record distinct each => exact distinct

/-- What holds of a record holds of its fields. -/
theorem of_field {fields : Row} (named : (Value.record fields).NamesDistinct)
    {name : String} {value : Value} (found : Assoc.get? fields name = some value) :
    value.NamesDistinct := by
  cases named with
  | plain noList noRecord => exact absurd rfl (noRecord fields)
  | record distinct each => exact each (name, value) (Assoc.mem_of_get? found)

/-- What holds of pairs holds of the map that is made from them. -/
theorem ofPairs {pairs : List (String × Value)} (each : ∀ pair ∈ pairs, pair.2.NamesDistinct) :
    (Value.record (Assoc.ofPairs pairs)).NamesDistinct :=
  .record (Assoc.nodup_keys_ofPairs pairs) fun entry present =>
    each entry (Assoc.mem_of_mem_ofPairs present)

end Value.NamesDistinct

namespace Json

theorem namesDistinct_of_readNumber {negative : Bool} {characters rest : List Char} {value : Value}
    (read : readNumber negative characters = .ok (value, rest)) : value.NamesDistinct := by
  unfold readNumber at read
  split at read
  · cases read
  · dsimp only at read
    split at read
    · cases read
      exact .plain (fun _ => Value.noConfusion) fun _ => Value.noConfusion
    · cases read
      exact .plain (fun _ => Value.noConfusion) fun _ => Value.noConfusion

theorem namesDistinct_of_word {word : String} {value : Value} (known : (word, value) ∈ words) :
    value.NamesDistinct := by
  refine .plain ?_ ?_ <;> rintro parts rfl <;> simp [words] at known

theorem namesDistinct_of_readPlain {characters rest : List Char} {value : Value}
    (read : readPlain characters = .ok (value, rest)) : value.NamesDistinct := by
  unfold readPlain at read
  dsimp only at read
  split at read
  · next found =>
    cases read
    obtain ⟨entry, known, matched⟩ := List.exists_of_findSome?_eq_some found
    obtain ⟨after, _, same⟩ := Option.map_eq_some_iff.mp matched
    cases same
    exact namesDistinct_of_word known
  · split at read
    · exact namesDistinct_of_readNumber read
    · exact namesDistinct_of_readNumber read

/-- What the readers read with some fuel names no field twice. -/
structure ReadsDistinct (fuel : Nat) : Prop where
  value : ∀ {room characters value rest}, readValue fuel room characters = .ok (value, rest) →
    value.NamesDistinct
  items : ∀ {room characters items rest}, readItems fuel room characters = .ok (items, rest) →
    ∀ item ∈ items, item.NamesDistinct
  members : ∀ {room characters pairs rest}, readMembers fuel room characters = .ok (pairs, rest) →
    ∀ pair ∈ pairs, pair.2.NamesDistinct

namespace ReadsDistinct

variable {fuel room : Nat} {characters rest : List Char}

theorem value_succ (reads : ReadsDistinct fuel) {value : Value}
    (read : readValue (fuel + 1) room characters = .ok (value, rest)) : value.NamesDistinct := by
  cases characters with
  | nil => cases read
  | cons first after =>
    rw [readValue] at read
    split at read
    · -- A string.
      obtain ⟨⟨content, final⟩, _, last⟩ := Outcome.map_eq_ok_iff.mp read
      cases last
      exact .plain (fun _ => Value.noConfusion) fun _ => Value.noConfusion
    · split at read
      · -- A list, which may be empty.
        obtain ⟨left, _, inside⟩ := within_eq_ok_iff.mp read
        split at inside
        · cases inside
          exact .list fun _ none => nomatch none
        · obtain ⟨⟨items, final⟩, itemsRead, last⟩ := Outcome.map_eq_ok_iff.mp inside
          cases last
          exact .list (reads.items itemsRead)
      · split at read
        · -- An object, which may be empty.
          obtain ⟨left, _, inside⟩ := within_eq_ok_iff.mp read
          split at inside
          · cases inside
            exact .record List.nodup_nil fun _ none => nomatch none
          · obtain ⟨⟨pairs, final⟩, pairsRead, last⟩ := Outcome.map_eq_ok_iff.mp inside
            cases last
            exact .ofPairs (reads.members pairsRead)
        · exact namesDistinct_of_readPlain read

theorem items_succ (reads : ReadsDistinct fuel) {items : List Value}
    (read : readItems (fuel + 1) room characters = .ok (items, rest)) :
    ∀ item ∈ items, item.NamesDistinct := by
  rw [readItems, Outcome.bind_eq_ok_iff] at read
  obtain ⟨⟨value, after⟩, valueRead, more⟩ := read
  dsimp only at more
  split at more
  · cases more
    exact List.forall_mem_singleton.mpr (reads.value valueRead)
  · obtain ⟨⟨others, final⟩, othersRead, last⟩ := Outcome.bind_eq_ok_iff.mp more
    cases last
    exact List.forall_mem_cons.mpr ⟨reads.value valueRead, reads.items othersRead⟩
  · cases more

theorem members_succ (reads : ReadsDistinct fuel) {pairs : List (String × Value)}
    (read : readMembers (fuel + 1) room characters = .ok (pairs, rest)) :
    ∀ pair ∈ pairs, pair.2.NamesDistinct := by
  rw [readMembers, Outcome.bind_eq_ok_iff] at read
  obtain ⟨⟨name, valueText⟩, _, afterName⟩ := read
  obtain ⟨⟨value, after⟩, valueRead, more⟩ := Outcome.bind_eq_ok_iff.mp afterName
  dsimp only at more
  split at more
  · cases more
    exact List.forall_mem_singleton.mpr (reads.value valueRead)
  · obtain ⟨⟨others, final⟩, othersRead, last⟩ := Outcome.bind_eq_ok_iff.mp more
    cases last
    exact List.forall_mem_cons.mpr ⟨reads.value valueRead, reads.members othersRead⟩
  · cases more

end ReadsDistinct

theorem readsDistinct (fuel : Nat) : ReadsDistinct fuel := by
  induction fuel with
  | zero =>
    constructor
    · intro room characters value rest read
      cases read
    · intro room characters items rest read
      cases read
    · intro room characters pairs rest read
      cases read
  | succ fuel inductionHypothesis =>
    exact ⟨inductionHypothesis.value_succ, inductionHypothesis.items_succ,
      inductionHypothesis.members_succ⟩

/-- The value of a text names no field twice. -/
theorem namesDistinct_of_parse {nesting : Nat} {content : String} {value : Value}
    (parsed : parse nesting content = .ok value) : value.NamesDistinct := by
  obtain ⟨⟨read, rest⟩, valueRead, ended⟩ := Outcome.bind_eq_ok_iff.mp parsed
  dsimp only at ended
  split at ended
  · cases ended
    exact (readsDistinct _).value valueRead
  · cases ended

end Json

end SheetIntake
