import SheetIntake.Decimal.Exact
import SheetIntake.Text.Blank
import SheetIntake.Text.Digit

/-!
# Numerals

Numbers as people and files write them: an optional sign, digits with or without a point, an
optional exponent, or a word for an infinity or for no number. The digit values are a parameter,
because some sources admit the digits of every script and others ASCII digits alone. Reading goes
to the nearest float.
-/

namespace SheetIntake.Decimal

open SheetIntake.Text

/-- What a numeral says: a signed coefficient times a power of ten, an infinity, or no number. -/
inductive Numeral where
  | finite (negative : Bool) (coefficient : Nat) (exponent : Int)
  | infinite (negative : Bool)
  | notANumber
  deriving DecidableEq, Repr

/-- The leading digits of a text and the rest after them. -/
def takeDigits (digit : Char → Option Nat) : List Char → List Nat × List Char
  | [] => ([], [])
  | character :: rest =>
    match digit character with
    | some value =>
      let (values, after) := takeDigits digit rest
      (value :: values, after)
    | none => ([], character :: rest)

/-- The number that decimal digits stand for, the leading digit first. -/
def valueOfDigits (digits : List Nat) : Nat :=
  digits.foldl (fun total digit => 10 * total + digit) 0

/-- An optional sign in front of the rest. -/
def takeSign : List Char → Bool × List Char
  | '-' :: rest => (true, rest)
  | '+' :: rest => (false, rest)
  | characters => (false, characters)

/-- An exponent, or nothing; anything else is refused. -/
def readExponent? (digit : Char → Option Nat) : List Char → Option Int
  | [] => some 0
  | mark :: rest =>
    if mark = 'e' ∨ mark = 'E' then
      let (negative, unsigned) := takeSign rest
      match takeDigits digit unsigned with
      | (value :: values, []) =>
        let size := Int.ofNat (valueOfDigits (value :: values))
        some (if negative then -size else size)
      | _ => none
    else none

/-- The digits, point and exponent of a numeral without its sign. -/
def readUnsigned? (digit : Char → Option Nat) (characters : List Char) :
    Option (Nat × Int) :=
  let (whole, afterWhole) := takeDigits digit characters
  let (fraction, afterFraction) :=
    match afterWhole with
    | '.' :: rest => takeDigits digit rest
    | rest => ([], rest)
  if whole.isEmpty && fraction.isEmpty then none
  else
    (readExponent? digit afterFraction).map fun exponent =>
      (valueOfDigits (whole ++ fraction), exponent - Int.ofNat fraction.length)

/-- A numeral that fills the whole text. Words are read without regard to the case of ASCII
letters. -/
def Numeral.read? (digit : Char → Option Nat) (characters : List Char) : Option Numeral :=
  let (negative, unsigned) := takeSign characters
  let word := String.ofList (unsigned.map Char.toLower)
  if word = "inf" ∨ word = "infinity" then some (.infinite negative)
  else if word = "nan" then some .notANumber
  else
    (readUnsigned? digit unsigned).map fun (coefficient, exponent) =>
      .finite negative coefficient exponent

/-- Zero over zero. -/
def notANumberFloat : Float := 0.0 / 0.0

/-- One over zero. -/
def infinity : Float := 1.0 / 0.0

/-- The float nearest to a coefficient times a power of ten. Powers far outside the range of floats
are settled without computing them. -/
def nearestFloat (coefficient : Nat) (exponent : Int) : Float :=
  if coefficient = 0 then 0.0
  else if 400 < exponent then infinity
  else if exponent < -(400 + Int.ofNat coefficient.log2) then 0.0
  else if 0 ≤ exponent then Float.ofScientific (coefficient * power 10 exponent.toNat) false 0
  else Float.ofScientific coefficient true (-exponent).toNat

/-- The float nearest to what a numeral says. -/
def Numeral.toFloat : Numeral → Float
  | .finite negative coefficient exponent =>
    let size := nearestFloat coefficient exponent
    if negative then -size else size
  | .infinite negative => if negative then -infinity else infinity
  | .notANumber => notANumberFloat

/-- Removes each underscore that stands between two digits; any other underscore is refused. The
flag says whether a digit stands directly before. -/
def joinGroups? (digit : Char → Option Nat) : Bool → List Char → Option (List Char)
  | _, [] => some []
  | afterDigit, character :: rest =>
    if character = '_' then
      match rest with
      | [] => none
      | next :: _ =>
        if afterDigit && (digit next).isSome then joinGroups? digit false rest else none
    else (joinGroups? digit (digit character).isSome rest).map (character :: ·)

/-- The float a text stands for, with digits of any script, white space around it and digit groups
joined by underscores. -/
def readGroupedFloat? (text : String) : Option Float := do
  let joined ← joinGroups? digitValue? false (strip isSpace text.toList)
  let numeral ← Numeral.read? digitValue? joined
  return numeral.toFloat

/-- The integer a text stands for, with digits of any script, white space around it and digit groups
joined by underscores. -/
def readInteger? (text : String) : Option Int := do
  let joined ← joinGroups? digitValue? false (strip isSpace text.toList)
  let (negative, unsigned) := takeSign joined
  let (digits, rest) := takeDigits digitValue? unsigned
  if digits.isEmpty || !rest.isEmpty then none
  else
    let size := Int.ofNat (valueOfDigits digits)
    some (if negative then -size else size)

end SheetIntake.Decimal
