import SheetIntake.Fault
import SheetIntake.Text.Case
import SheetIntake.Value

/-!
# Checks of simple parts

How single values are taken as texts, truth values, numbers, lists and maps. Texts are taken only
from texts; truth values and numbers also from values that clearly stand for one.
-/

namespace SheetIntake.Checked

open Decimal Text

/-- A text. -/
def readText : Value → Checked String
  | .text value => .ok value
  | _ => fault .stringType

/-- The texts that stand for a truth value, in lower case. -/
def truthWords : List (String × Bool) :=
  [("0", false), ("off", false), ("f", false), ("false", false), ("n", false), ("no", false),
    ("1", true), ("on", true), ("t", true), ("true", true), ("y", true), ("yes", true)]

/-- The greatest integer in sixty-four bits. -/
def largestInteger : Int := 9223372036854775807

/-- A truth value given by an integer: zero or one. Integers of more than sixty-four bits are
numbers of another kind. -/
def readTruthNumber (value : Int) : Checked Bool :=
  if value = 0 then .ok false
  else if value = 1 then .ok true
  else if -largestInteger - 1 ≤ value ∧ value ≤ largestInteger then fault .boolParsing
  else fault .boolType

/-- A truth value. -/
def readBool : Value → Checked Bool
  | .bool value => .ok value
  | .int value => readTruthNumber value
  | .float value =>
    match integer? value with
    | some whole => readTruthNumber whole
    | none => fault .boolType
  | .text value =>
    match Assoc.get? truthWords (asciiLower value) with
    | some truth => .ok truth
    | none => fault .boolParsing
  | _ => fault .boolType

/-- A text without its underscores, if it has some, none of them at an end or beside another. -/
def withoutUnderscores? (characters : List Char) : Option (List Char) :=
  let doubled := (characters.zip (characters.drop 1)).any fun pair => pair.1 = '_' && pair.2 = '_'
  if characters.head? = some '_' ∨ characters.getLast? = some '_' ∨ doubled = true then none
  else some (characters.filter (· ≠ '_'))

/-- The number that a text stands for, in ASCII digits, with white space around it or single
underscores in it. -/
def floatOfText? (value : String) : Option Float :=
  let direct := Numeral.read? asciiDigitValue? (strip isSpace value.toList)
  let joined := (withoutUnderscores? value.toList).bind (Numeral.read? asciiDigitValue?)
  (direct.or joined).map Numeral.toFloat

/-- A number. -/
def readFloat : Value → Checked Float
  | .float value => .ok value
  | .bool value => .ok (if value then 1.0 else 0.0)
  | .int value =>
    match ofInteger? value with
    | some nearest => .ok nearest
    | none => fault .floatType
  | .text value =>
    match floatOfText? value with
    | some number => .ok number
    | none => fault .floatParsing
  | _ => fault .floatType

/-- A part that may be null. -/
def readOptional {α : Type} (read : Value → Checked α) : Value → Checked (Option α)
  | .null => .ok none
  | value => (read value).map some

/-- The items of a list, each checked in its place. -/
def readItems {α : Type} (read : Value → Checked α) (items : List Value) : Checked (List α) :=
  all (items.zipIdx.map fun (item, index) => (read item).under (.place index))

/-- A list. -/
def readList {α : Type} (read : Value → Checked α) : Value → Checked (List α)
  | .list items => readItems read items
  | _ => fault .listType

/-- A map, each of its values checked under its name. -/
def readEntries {α : Type} (read : Value → Checked α) : Value → Checked (List (String × α))
  | .record fields =>
    all (fields.map fun (name, value) =>
      ((read value).under (.name name)).map fun checked => (name, checked))
  | _ => fault .dictType

/-- A named part that must be there. -/
def readRequired {α : Type} (fields : Row) (name : String) (read : Value → Checked α) :
    Checked α :=
  match Assoc.get? fields name with
  | some value => (read value).under (.name name)
  | none => (fault .missing).under (.name name)

/-- A named part that has a value of its own when it is not there. -/
def readDefault {α : Type} (fields : Row) (name : String) (absent : α)
    (read : Value → Checked α) : Checked α :=
  match Assoc.get? fields name with
  | some value => (read value).under (.name name)
  | none => .ok absent

/-- No parts but those with the given names. -/
def readNoOthers (fields : Row) (names : List String) : Checked Unit :=
  match fields.filter fun entry => !names.contains entry.1 with
  | [] => .ok ()
  | others => .error (others.map fun entry => ⟨.extraForbidden, [.name entry.1]⟩)

end SheetIntake.Checked
