import SheetIntake.Text.Blank
import SheetIntake.Text.Digit
import SheetIntake.Text.Quoted
import SheetIntake.Value

/-!
# JSON texts

A JSON text is read into a value. Objects keep the order of their members; a repeated name keeps
its first place and its last value. Numbers without fraction and exponent are integers; the words
`NaN`, `Infinity` and `-Infinity` are numbers too. Control characters may not stand in strings, and
a text may not begin with a byte order mark.

How deep the lists and objects of a text may nest depends on where the text is read, so it is a
parameter of the reader. A bracket that nests deeper ends the reading.
-/

namespace SheetIntake.Json

open Decimal Text

/-- Why a text is not read. -/
inductive Defect where
  /-- The text does not follow the grammar. -/
  | malformed
  /-- A list or an object opens inside as many others as may be open. -/
  | nestedTooDeeply
  deriving DecidableEq, Repr

/-- What is read from the front of a text, with the characters after it. -/
abbrev Read (α : Type) := Except Defect (α × List Char)

/-- The rest of a text after blanks. -/
def skipGap (characters : List Char) : List Char := characters.dropWhile isGap

/-- Four hexadecimal digits at the front. -/
def takeUnit? : List Char → Option (Nat × List Char)
  | first :: second :: third :: fourth :: rest => do
    let a ← hexDigit? first
    let b ← hexDigit? second
    let c ← hexDigit? third
    let d ← hexDigit? fourth
    return (((a * 16 + b) * 16 + c) * 16 + d, rest)
  | _ => none

/-- The character that stands for half of a pair without its other half. -/
def loneHalf : Char := Char.ofNat 0xfffd

/-- The character of an escaped code unit, with the second half of a pair if one follows. -/
def takeEscapedUnit? (characters : List Char) : Option (Char × List Char) := do
  let (unit, rest) ← takeUnit? characters
  if unit < 0xd800 ∨ 0xdfff < unit then return (Char.ofNat unit, rest)
  else if 0xdc00 ≤ unit then return (loneHalf, rest)
  else
    match rest with
    | first :: 'u' :: after =>
      if first = backslash then
        match takeUnit? after with
        | some (low, final) =>
          if 0xdc00 ≤ low ∧ low ≤ 0xdfff then
            return (Char.ofNat (0x10000 + (unit - 0xd800) * 0x400 + (low - 0xdc00)), final)
          else return (loneHalf, rest)
        | none => return (loneHalf, rest)
      else return (loneHalf, rest)
    | _ => return (loneHalf, rest)

/-- The character of an escape after its backslash. -/
def takeEscape? : List Char → Option (Char × List Char)
  | [] => none
  | mark :: rest =>
    if mark = quotationMark ∨ mark = backslash ∨ mark = '/' then some (mark, rest)
    else if mark = 'b' then some (Char.ofNat 8, rest)
    else if mark = 'f' then some (Char.ofNat 12, rest)
    else if mark = 'n' then some ('\n', rest)
    else if mark = 'r' then some ('\r', rest)
    else if mark = 't' then some ('\t', rest)
    else if mark = 'u' then takeEscapedUnit? rest
    else none

/-- The characters of a string up to its closing quote, added in reverse to those already read.
Every step takes at least one character. -/
def takeString : Nat → List Char → List Char → Read String
  | _, _, [] => .error .malformed
  | 0, _, _ :: _ => .error .malformed
  | fuel + 1, taken, character :: rest =>
    if character = quotationMark then .ok (String.ofList taken.reverse, rest)
    else if character = backslash then
      match takeEscape? rest with
      | some (escaped, after) => takeString fuel (escaped :: taken) after
      | none => .error .malformed
    else if character.toNat < 0x20 then .error .malformed
    else takeString fuel (character :: taken) rest

/-- A string after its opening quote. -/
def readString (characters : List Char) : Read String :=
  takeString characters.length [] characters

/-- The digits of a whole number: one zero, or digits that do not begin with zero. -/
def takeWhole? (characters : List Char) : Option (List Nat × List Char) :=
  match characters with
  | '0' :: rest => some ([0], rest)
  | _ =>
    match takeDigits asciiDigitValue? characters with
    | ([], _) => none
    | result => some result

/-- The digits after a point, if a point with digits follows. -/
def takePlaces (characters : List Char) : List Nat × List Char :=
  match characters with
  | '.' :: rest =>
    match takeDigits asciiDigitValue? rest with
    | ([], _) => ([], characters)
    | result => result
  | _ => ([], characters)

/-- An exponent, if one with digits follows. -/
def takeExponent (characters : List Char) : Option Int × List Char :=
  match characters with
  | mark :: rest =>
    if mark = 'e' ∨ mark = 'E' then
      let (negative, unsigned) := takeSign rest
      match takeDigits asciiDigitValue? unsigned with
      | ([], _) => (none, characters)
      | (digits, after) =>
        let size := Int.ofNat (valueOfDigits digits)
        (some (if negative then -size else size), after)
    else (none, characters)
  | [] => (none, [])

/-- A number at the front, after its sign. -/
def readNumber (negative : Bool) (characters : List Char) : Read Value :=
  match takeWhole? characters with
  | none => .error .malformed
  | some (whole, afterWhole) =>
    let (places, afterPlaces) := takePlaces afterWhole
    let (exponent, rest) := takeExponent afterPlaces
    if places.isEmpty && exponent.isNone then
      let size := Int.ofNat (valueOfDigits whole)
      .ok (.int (if negative then -size else size), rest)
    else
      let numeral := Numeral.finite negative (valueOfDigits (whole ++ places))
        (exponent.getD 0 - Int.ofNat places.length)
      .ok (.float numeral.toFloat, rest)

/-- The rest of a text after a word at its front. -/
def afterWord? (word : String) (characters : List Char) : Option (List Char) :=
  if word.toList.isPrefixOf characters then some (characters.drop word.length) else none

/-- The values that are single words. -/
def words : List (String × Value) :=
  [("null", .null), ("true", .bool true), ("false", .bool false), ("NaN", .float notANumberFloat),
    ("Infinity", .float infinity), ("-Infinity", .float (-infinity))]

/-- A value that is a word or a number. -/
def readPlain (characters : List Char) : Read Value :=
  let found := words.findSome? fun (word, value) =>
    (afterWord? word characters).map fun rest => (value, rest)
  match found with
  | some result => .ok result
  | none =>
    match characters with
    | '-' :: rest => readNumber true rest
    | _ => readNumber false characters

/-- A member's name, after blanks, and the colon after it. -/
def readName (characters : List Char) : Read String :=
  match characters with
  | [] => .error .malformed
  | first :: rest =>
    if first = quotationMark then
      (readString rest).bind fun (name, after) =>
        match skipGap after with
        | ':' :: value => .ok (name, skipGap value)
        | _ => .error .malformed
    else .error .malformed

/-- What is read behind a bracket, with one bracket less to open. -/
def within {α : Type} (inside : Nat → Read α) : Nat → Read α
  | 0 => .error .nestedTooDeeply
  | room + 1 => inside room

/-- What is read behind a bracket is read with one bracket less to open. -/
theorem within_eq_ok_iff {α : Type} {inside : Nat → Read α} {room : Nat} {read : α × List Char} :
    within inside room = .ok read ↔ ∃ left, room = left + 1 ∧ inside left = .ok read := by
  cases room with
  | zero => simp [within]
  | succ left => simp [within]

mutual

/-- A value at the front. The fuel bounds the values, items and members that are read, and the room
is how many brackets may be open at once. -/
def readValue : Nat → Nat → List Char → Read Value
  | 0, _, _ => .error .malformed
  | _ + 1, _, [] => .error .malformed
  | fuel + 1, room, first :: rest =>
    if first = quotationMark then
      (readString rest).map fun (content, after) => (.text content, after)
    else if first = '[' then
      room |> within fun room =>
        match skipGap rest with
        | ']' :: after => .ok (.list [], after)
        | items => (readItems fuel room items).map fun (values, after) => (.list values, after)
    else if first = '\x7b' then
      room |> within fun room =>
        match skipGap rest with
        | '\x7d' :: after => .ok (.record [], after)
        | members =>
          (readMembers fuel room members).map fun (pairs, after) =>
            (.record (Assoc.ofPairs pairs), after)
    else readPlain (first :: rest)

/-- The items of a list up to its closing bracket. -/
def readItems : Nat → Nat → List Char → Except Defect (List Value × List Char)
  | 0, _, _ => .error .malformed
  | fuel + 1, room, characters => do
    let (value, after) ← readValue fuel room characters
    match skipGap after with
    | ']' :: rest => return ([value], rest)
    | ',' :: rest =>
      let (values, final) ← readItems fuel room (skipGap rest)
      return (value :: values, final)
    | _ => .error .malformed

/-- The members of an object up to its closing brace. -/
def readMembers : Nat → Nat → List Char → Except Defect (List (String × Value) × List Char)
  | 0, _, _ => .error .malformed
  | fuel + 1, room, characters => do
    let (name, valueText) ← readName characters
    let (value, after) ← readValue fuel room valueText
    match skipGap after with
    | '\x7d' :: rest => return ([(name, value)], rest)
    | ',' :: rest =>
      let (pairs, final) ← readMembers fuel room (skipGap rest)
      return ((name, value) :: pairs, final)
    | _ => .error .malformed

end

/-- The value of a whole text in which no more lists and objects than a limit may be open at once.
Each value, item and member takes at least one character, and no character is counted more than
twice. -/
def parse (nesting : Nat) (content : String) : Except Defect Value := do
  let characters := content.toList
  let (value, rest) ← readValue (2 * characters.length + 2) nesting (skipGap characters)
  if (skipGap rest).isEmpty then .ok value else .error .malformed

end SheetIntake.Json
