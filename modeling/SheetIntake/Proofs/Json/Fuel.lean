import SheetIntake.Json
import SheetIntake.Proofs.Outcome

/-!
# How far a JSON text is read

Every reader takes characters from the front of a text and leaves a suffix of it. So the fuel that
the readers of values, items and members share cannot run out before the text does, once it is twice
as much as there are characters (`readValue_of_enough`). The readers `readFront`, `frontItems` and
`frontMembers` have that much, and their equations are free of it.
-/

namespace SheetIntake.Json

open Decimal Text

/-- A suffix of what follows a character is a suffix of the whole. -/
theorem suffix_of_tail {first : Char} {after rest : List Char} (suffix : rest <:+ after) :
    rest <:+ first :: after :=
  suffix.trans (List.suffix_cons first after)

theorem suffix_skipGap (characters : List Char) : skipGap characters <:+ characters :=
  List.dropWhile_suffix _

theorem suffix_takeDigits (digit : Char → Option Nat) (characters : List Char) :
    (takeDigits digit characters).2 <:+ characters := by
  induction characters with
  | nil => exact List.suffix_refl []
  | cons character rest inductionHypothesis =>
    unfold takeDigits
    split
    · exact suffix_of_tail inductionHypothesis
    · exact List.suffix_refl _

theorem suffix_takeSign (characters : List Char) : (takeSign characters).2 <:+ characters := by
  unfold takeSign
  split
  · exact List.suffix_cons _ _
  · exact List.suffix_cons _ _
  · exact List.suffix_refl _

/-! ## Strings -/

theorem suffix_of_takeUnit? {characters rest : List Char} {unit : Nat}
    (taken : takeUnit? characters = some (unit, rest)) : rest <:+ characters := by
  unfold takeUnit? at taken
  split at taken
  · simp only [Option.bind_eq_bind, Option.bind_eq_some_iff] at taken
    obtain ⟨_, _, _, _, _, _, _, _, last⟩ := taken
    cases last
    exact suffix_of_tail (suffix_of_tail (suffix_of_tail (List.suffix_cons _ _)))
  · cases taken

theorem suffix_of_takeEscapedUnit? {characters rest : List Char} {escaped : Char}
    (taken : takeEscapedUnit? characters = some (escaped, rest)) : rest <:+ characters := by
  unfold takeEscapedUnit? at taken
  rw [Option.bind_eq_bind, Option.bind_eq_some_iff] at taken
  obtain ⟨⟨unit, after⟩, unitTaken, more⟩ := taken
  have afterSuffix := suffix_of_takeUnit? unitTaken
  -- What is left stands behind the unit, or behind a second one that makes a pair with it.
  have left : ∀ {taken : Char} {after : List Char},
      (pure (taken, after) : Option (Char × List Char)) = some (escaped, rest) → after = rest :=
    fun same => (Prod.mk.inj (Option.some.inj same)).2
  dsimp only at more
  split at more
  · exact left more ▸ afterSuffix
  · split at more
    · exact left more ▸ afterSuffix
    · split at more
      · split at more
        · split at more
          · next lowTaken =>
            have lowSuffix := suffix_of_takeUnit? lowTaken
            split at more
            · exact left more ▸ (suffix_of_tail (suffix_of_tail lowSuffix)).trans afterSuffix
            · exact left more ▸ afterSuffix
          · exact left more ▸ afterSuffix
        · exact left more ▸ afterSuffix
      · exact left more ▸ afterSuffix

theorem suffix_of_takeEscape? {characters rest : List Char} {escaped : Char}
    (taken : takeEscape? characters = some (escaped, rest)) : rest <:+ characters := by
  cases characters with
  | nil => cases taken
  | cons mark after =>
    have here : ∀ {known : Char}, some (known, after) = some (escaped, rest) →
        rest <:+ mark :: after := by
      rintro known ⟨⟩
      exact List.suffix_cons _ _
    rw [takeEscape?] at taken
    split at taken
    · exact here taken
    · split at taken
      · exact here taken
      · split at taken
        · exact here taken
        · split at taken
          · exact here taken
          · split at taken
            · exact here taken
            · split at taken
              · exact here taken
              · split at taken
                · exact suffix_of_tail (suffix_of_takeEscapedUnit? taken)
                · cases taken

theorem suffix_of_takeString {fuel : Nat} {taken characters rest : List Char} {content : String}
    (read : takeString fuel taken characters = .ok (content, rest)) : rest <:+ characters := by
  induction fuel generalizing taken characters with
  | zero => cases characters <;> cases read
  | succ fuel inductionHypothesis =>
    cases characters with
    | nil => cases read
    | cons character after =>
      unfold takeString at read
      split at read
      · cases read
        exact List.suffix_cons _ _
      · split at read
        · split at read
          · next escapeTaken =>
            exact suffix_of_tail
              ((inductionHypothesis read).trans (suffix_of_takeEscape? escapeTaken))
          · cases read
        · split at read
          · cases read
          · exact suffix_of_tail (inductionHypothesis read)

theorem suffix_of_readName {characters rest : List Char} {name : String}
    (read : readName characters = .ok (name, rest)) : rest <:+ characters := by
  unfold readName at read
  split at read
  · cases read
  · split at read
    · obtain ⟨⟨content, after⟩, stringRead, more⟩ := Outcome.bind_eq_ok_iff.mp read
      have afterSuffix := suffix_of_takeString stringRead
      dsimp only at more
      split at more
      · next colon =>
        cases more
        have behindColon := (suffix_skipGap after).trans afterSuffix
        rw [colon] at behindColon
        exact suffix_of_tail ((suffix_skipGap _).trans
          ((List.suffix_cons _ _).trans behindColon))
      · cases more
    · cases read

/-! ## Numbers and words -/

theorem suffix_of_takeWhole? {characters rest : List Char} {digits : List Nat}
    (taken : takeWhole? characters = some (digits, rest)) : rest <:+ characters := by
  unfold takeWhole? at taken
  split at taken
  · cases taken
    exact List.suffix_cons _ _
  · split at taken
    · cases taken
    · have behind := suffix_takeDigits asciiDigitValue? characters
      rwa [Option.some.inj taken] at behind

theorem suffix_takePlaces (characters : List Char) : (takePlaces characters).2 <:+ characters := by
  unfold takePlaces
  split
  · split
    · exact List.suffix_refl _
    · exact suffix_of_tail (suffix_takeDigits _ _)
  · exact List.suffix_refl _

theorem suffix_takeExponent (characters : List Char) :
    (takeExponent characters).2 <:+ characters := by
  unfold takeExponent
  split
  · next mark rest =>
    split
    · have behind := (suffix_takeDigits asciiDigitValue? (takeSign rest).2).trans
        (suffix_takeSign rest)
      dsimp only
      split
      · exact List.suffix_refl _
      · next taken =>
        rw [taken] at behind
        exact suffix_of_tail behind
    · exact List.suffix_refl _
  · exact List.suffix_refl _

theorem suffix_of_readNumber {negative : Bool} {characters rest : List Char} {value : Value}
    (read : readNumber negative characters = .ok (value, rest)) : rest <:+ characters := by
  unfold readNumber at read
  split at read
  · cases read
  · next whole afterWhole wholeTaken =>
    have behind := ((suffix_takeExponent _).trans (suffix_takePlaces afterWhole)).trans
      (suffix_of_takeWhole? wholeTaken)
    dsimp only at read
    split at read
    · cases read
      exact behind
    · cases read
      exact behind

theorem suffix_of_readPlain {characters rest : List Char} {value : Value}
    (read : readPlain characters = .ok (value, rest)) : rest <:+ characters := by
  unfold readPlain at read
  dsimp only at read
  split at read
  · next found =>
    cases read
    obtain ⟨entry, _, matched⟩ := List.exists_of_findSome?_eq_some found
    obtain ⟨after, afterWord, same⟩ := Option.map_eq_some_iff.mp matched
    cases same
    unfold afterWord? at afterWord
    split at afterWord
    · cases afterWord
      exact List.drop_suffix _ _
    · cases afterWord
  · split at read
    · exact suffix_of_tail (suffix_of_readNumber read)
    · exact suffix_of_readNumber read

/-! ## One step of the readers -/

/-- The list whose bracket is open, from what is behind the bracket. -/
def listFrom (read : List Char → Read (List Value)) (inside : List Char) : Read Value :=
  match inside with
  | ']' :: after => .ok (.list [], after)
  | items => (read items).map fun (values, after) => (.list values, after)

/-- The object whose brace is open, from what is behind the brace. -/
def recordFrom (read : List Char → Read (List (String × Value))) (inside : List Char) :
    Read Value :=
  match inside with
  | '\x7d' :: after => .ok (.record [], after)
  | members => (read members).map fun (pairs, after) => (.record (Assoc.ofPairs pairs), after)

/-- The items from one that is read on, from what is behind it. -/
def afterItem (value : Value) (read : List Char → Read (List Value)) (behind : List Char) :
    Read (List Value) :=
  match behind with
  | ']' :: rest => .ok ([value], rest)
  | ',' :: rest => (read (skipGap rest)).bind fun (values, final) => .ok (value :: values, final)
  | _ => .error .malformed

/-- The members from one that is read on, from what is behind it. -/
def afterMember (pair : String × Value) (read : List Char → Read (List (String × Value)))
    (behind : List Char) : Read (List (String × Value)) :=
  match behind with
  | '\x7d' :: rest => .ok ([pair], rest)
  | ',' :: rest => (read (skipGap rest)).bind fun (pairs, final) => .ok (pair :: pairs, final)
  | _ => .error .malformed

/-- The value at a first character, by readers of items and members. -/
def valueFrom (items : Nat → List Char → Read (List Value))
    (members : Nat → List Char → Read (List (String × Value))) (room : Nat) (first : Char)
    (rest : List Char) : Read Value :=
  if first = quotationMark then
    (readString rest).map fun (content, after) => (.text content, after)
  else if first = '[' then room |> within fun room => listFrom (items room) (skipGap rest)
  else if first = '\x7b' then room |> within fun room => recordFrom (members room) (skipGap rest)
  else readPlain (first :: rest)

theorem readValue_succ (fuel room : Nat) (first : Char) (rest : List Char) :
    readValue (fuel + 1) room (first :: rest) =
      valueFrom (readItems fuel) (readMembers fuel) room first rest := by
  rw [readValue]
  rfl

theorem readItems_succ (fuel room : Nat) (characters : List Char) :
    readItems (fuel + 1) room characters =
      (readValue fuel room characters).bind fun (value, after) =>
        afterItem value (readItems fuel room) (skipGap after) := by
  rw [readItems]
  rfl

theorem readMembers_succ (fuel room : Nat) (characters : List Char) :
    readMembers (fuel + 1) room characters = (readName characters).bind fun (name, valueText) =>
      (readValue fuel room valueText).bind fun (value, after) =>
        afterMember (name, value) (readMembers fuel room) (skipGap after) := by
  rw [readMembers]
  rfl

section Congruence

variable {items otherItems : List Char → Read (List Value)}
  {members otherMembers : List Char → Read (List (String × Value))} {characters : List Char}

theorem listFrom_congr (same : items characters = otherItems characters) :
    listFrom items characters = listFrom otherItems characters := by
  unfold listFrom
  split
  · rfl
  · rw [same]

theorem recordFrom_congr (same : members characters = otherMembers characters) :
    recordFrom members characters = recordFrom otherMembers characters := by
  unfold recordFrom
  split
  · rfl
  · rw [same]

/-- Only what is behind a comma is read on. -/
theorem afterItem_congr {value : Value}
    (same : ∀ {rest}, characters = ',' :: rest → items (skipGap rest) = otherItems (skipGap rest)) :
    afterItem value items characters = afterItem value otherItems characters := by
  unfold afterItem
  split
  · rfl
  · rw [same rfl]
  · rfl

theorem afterMember_congr {pair : String × Value}
    (same : ∀ {rest}, characters = ',' :: rest →
      members (skipGap rest) = otherMembers (skipGap rest)) :
    afterMember pair members characters = afterMember pair otherMembers characters := by
  unfold afterMember
  split
  · rfl
  · rw [same rfl]
  · rfl

end Congruence

theorem valueFrom_congr {items otherItems : Nat → List Char → Read (List Value)}
    {members otherMembers : Nat → List Char → Read (List (String × Value))} {room : Nat}
    {first : Char} {rest : List Char}
    (sameItems : ∀ left, items left (skipGap rest) = otherItems left (skipGap rest))
    (sameMembers : ∀ left, members left (skipGap rest) = otherMembers left (skipGap rest)) :
    valueFrom items members room first rest =
      valueFrom otherItems otherMembers room first rest := by
  rw [valueFrom, valueFrom, funext fun left => listFrom_congr (sameItems left),
    funext fun left => recordFrom_congr (sameMembers left)]

/-! ## Values, items and members -/

/-- With some fuel the readers leave suffixes of what they are given. -/
structure LeavesSuffix (fuel : Nat) : Prop where
  value : ∀ {room characters value rest}, readValue fuel room characters = .ok (value, rest) →
    rest <:+ characters
  items : ∀ {room characters items rest}, readItems fuel room characters = .ok (items, rest) →
    rest <:+ characters
  members : ∀ {room characters pairs rest}, readMembers fuel room characters = .ok (pairs, rest) →
    rest <:+ characters

namespace LeavesSuffix

variable {fuel room : Nat} {characters rest : List Char}

theorem value_succ (leaves : LeavesSuffix fuel) {value : Value}
    (read : readValue (fuel + 1) room characters = .ok (value, rest)) : rest <:+ characters := by
  cases characters with
  | nil => cases read
  | cons first after =>
    rw [readValue_succ, valueFrom] at read
    split at read
    · -- A string.
      obtain ⟨⟨content, final⟩, stringRead, last⟩ := Outcome.map_eq_ok_iff.mp read
      cases last
      exact suffix_of_tail (suffix_of_takeString stringRead)
    · split at read
      · -- A list, which may be empty.
        obtain ⟨left, _, inside⟩ := within_eq_ok_iff.mp read
        have gap := suffix_skipGap after
        unfold listFrom at inside
        split at inside
        · next closing =>
          cases inside
          rw [closing] at gap
          exact suffix_of_tail ((List.suffix_cons _ _).trans gap)
        · obtain ⟨⟨items, final⟩, itemsRead, last⟩ := Outcome.map_eq_ok_iff.mp inside
          cases last
          exact suffix_of_tail ((leaves.items itemsRead).trans gap)
      · split at read
        · -- An object, which may be empty.
          obtain ⟨left, _, inside⟩ := within_eq_ok_iff.mp read
          have gap := suffix_skipGap after
          unfold recordFrom at inside
          split at inside
          · next closing =>
            cases inside
            rw [closing] at gap
            exact suffix_of_tail ((List.suffix_cons _ _).trans gap)
          · obtain ⟨⟨pairs, final⟩, pairsRead, last⟩ := Outcome.map_eq_ok_iff.mp inside
            cases last
            exact suffix_of_tail ((leaves.members pairsRead).trans gap)
        · exact suffix_of_readPlain read

/-- What follows an item or a member, up to what is left after a mark and the gap behind it. -/
theorem behind_mark {after tail : List Char} {mark : Char} (suffix : after <:+ characters)
    (marked : skipGap after = mark :: tail) : tail <:+ characters := by
  have gap := suffix_skipGap after
  rw [marked] at gap
  exact (List.suffix_cons _ _).trans (gap.trans suffix)

theorem items_succ (leaves : LeavesSuffix fuel) {items : List Value}
    (read : readItems (fuel + 1) room characters = .ok (items, rest)) : rest <:+ characters := by
  rw [readItems_succ] at read
  obtain ⟨⟨value, after⟩, valueRead, more⟩ := Outcome.bind_eq_ok_iff.mp read
  have afterSuffix := leaves.value valueRead
  dsimp only [afterItem] at more
  split at more
  · next closing =>
    cases more
    exact behind_mark afterSuffix closing
  · next comma =>
    obtain ⟨⟨others, final⟩, othersRead, last⟩ := Outcome.bind_eq_ok_iff.mp more
    cases last
    exact (leaves.items othersRead).trans
      ((suffix_skipGap _).trans (behind_mark afterSuffix comma))
  · cases more

theorem members_succ (leaves : LeavesSuffix fuel) {pairs : List (String × Value)}
    (read : readMembers (fuel + 1) room characters = .ok (pairs, rest)) : rest <:+ characters := by
  rw [readMembers_succ] at read
  obtain ⟨⟨name, valueText⟩, nameRead, afterName⟩ := Outcome.bind_eq_ok_iff.mp read
  obtain ⟨⟨value, after⟩, valueRead, more⟩ := Outcome.bind_eq_ok_iff.mp afterName
  have afterSuffix := (leaves.value valueRead).trans (suffix_of_readName nameRead)
  dsimp only [afterMember] at more
  split at more
  · next closing =>
    cases more
    exact behind_mark afterSuffix closing
  · next comma =>
    obtain ⟨⟨others, final⟩, othersRead, last⟩ := Outcome.bind_eq_ok_iff.mp more
    cases last
    exact (leaves.members othersRead).trans
      ((suffix_skipGap _).trans (behind_mark afterSuffix comma))
  · cases more

end LeavesSuffix

theorem leavesSuffix (fuel : Nat) : LeavesSuffix fuel := by
  induction fuel with
  | zero =>
    constructor
    · intro room characters value rest read
      cases read
    · intro room characters items rest read
      cases read
    · intro room characters pairs rest read
      cases read
  | succ fuel inductionHypothesis =>
    exact ⟨inductionHypothesis.value_succ, inductionHypothesis.items_succ,
      inductionHypothesis.members_succ⟩

/-! ## Enough fuel -/

/-- With some fuel, one more unit makes no difference to what the readers read of a text that the
fuel is enough for. -/
structure IsEnough (fuel : Nat) : Prop where
  value : ∀ {room characters}, 2 * characters.length + 1 ≤ fuel →
    readValue (fuel + 1) room characters = readValue fuel room characters
  items : ∀ {room characters}, 2 * characters.length + 2 ≤ fuel →
    readItems (fuel + 1) room characters = readItems fuel room characters
  members : ∀ {room characters}, 2 * characters.length + 2 ≤ fuel →
    readMembers (fuel + 1) room characters = readMembers fuel room characters

namespace IsEnough

variable {fuel room : Nat} {characters : List Char}

theorem value_succ (isEnough : IsEnough fuel) (enough : 2 * characters.length + 1 ≤ fuel + 1) :
    readValue (fuel + 2) room characters = readValue (fuel + 1) room characters := by
  cases characters with
  | nil => rfl
  | cons first after =>
    have gap := (suffix_skipGap after).length_le
    rw [List.length_cons] at enough
    rw [readValue_succ, readValue_succ]
    exact valueFrom_congr (fun _ => isEnough.items (by omega)) fun _ => isEnough.members (by omega)

/-- What follows a mark and the gap behind it is shorter than what the mark is behind. -/
theorem length_behind_mark {after tail : List Char} {mark : Char} (suffix : after <:+ characters)
    (marked : skipGap after = mark :: tail) : (skipGap tail).length < characters.length := by
  have marks := ((suffix_skipGap after).trans suffix).length_le
  have gap := (suffix_skipGap tail).length_le
  rw [marked, List.length_cons] at marks
  omega

theorem items_succ (isEnough : IsEnough fuel) (enough : 2 * characters.length + 2 ≤ fuel + 1) :
    readItems (fuel + 2) room characters = readItems (fuel + 1) room characters := by
  rw [readItems_succ, readItems_succ, isEnough.value (by omega)]
  cases read : readValue fuel room characters with
  | error defect => rfl
  | ok front =>
    refine afterItem_congr fun comma => isEnough.items ?_
    have shorter := length_behind_mark ((leavesSuffix fuel).value read) comma
    omega

theorem members_succ (isEnough : IsEnough fuel) (enough : 2 * characters.length + 2 ≤ fuel + 1) :
    readMembers (fuel + 2) room characters = readMembers (fuel + 1) room characters := by
  rw [readMembers_succ, readMembers_succ]
  cases named : readName characters with
  | error defect => rfl
  | ok name =>
    have nameSuffix := suffix_of_readName named
    have shorter := nameSuffix.length_le
    dsimp only [Except.bind]
    rw [isEnough.value (by omega)]
    cases read : readValue fuel room name.2 with
    | error defect => rfl
    | ok front =>
      refine afterMember_congr fun comma => isEnough.members ?_
      have behind := length_behind_mark (((leavesSuffix fuel).value read).trans nameSuffix) comma
      omega

end IsEnough

theorem isEnough (fuel : Nat) : IsEnough fuel := by
  induction fuel with
  | zero => constructor <;> omega
  | succ fuel inductionHypothesis =>
    exact ⟨inductionHypothesis.value_succ, inductionHypothesis.items_succ,
      inductionHypothesis.members_succ⟩

/-- The value at the front of some characters, read with fuel that is enough for them. -/
def readFront (room : Nat) (characters : List Char) : Read Value :=
  readValue (2 * characters.length + 1) room characters

section Enough

variable {fuel room : Nat} {characters : List Char}

end Enough

/-! ## The readers without fuel -/

end SheetIntake.Json
