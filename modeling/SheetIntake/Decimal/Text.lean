import SheetIntake.Decimal.Digits

/-!
# Decimal text of floats

How a float is written is one `Style` value: where positional writing ends and whether a whole
number keeps a zero after the point. `exactStyle` writes the fewest digits that read back,
`cellStyle` the sixteen digits of a stored worksheet cell.
-/

namespace SheetIntake.Decimal

/-- The choices of a decimal format. Numbers whose leading digit stands at a place from
`leastPlace` up to, but not including, `placeLimit` are written positionally, all others with an
exponent. -/
structure Style where
  leastPlace : Int
  placeLimit : Int
  keepsPoint : Bool
  digits : Nat → Int → Digits

/-- The fewest digits that read back, and always a point or an exponent. -/
def exactStyle : Style where
  leastPlace := -4
  placeLimit := 16
  keepsPoint := true
  digits := Digits.shortest

/-- Sixteen significant digits, and no point after a whole number. -/
def cellStyle : Style where
  leastPlace := -4
  placeLimit := 16
  keepsPoint := false
  digits := Digits.significant 16

/-- A natural number with zeros in front up to a width. -/
def padded (width value : Nat) : List Char :=
  let digits := Nat.toDigits 10 value
  List.replicate (width - digits.length) '0' ++ digits

/-- Positional writing: whole digits, then the point and the digits after it. -/
def positional (keepsPoint : Bool) (digits : Digits) : List Char :=
  let characters := digits.characters
  if 0 ≤ digits.exponent then
    characters ++ List.replicate digits.exponent.toNat '0' ++
      (if keepsPoint then ['.', '0'] else [])
  else
    let after := (-digits.exponent).toNat
    let full := List.replicate (after + 1 - characters.length) '0' ++ characters
    full.take (full.length - after) ++ '.' :: full.drop (full.length - after)

/-- Writing with an exponent of at least two digits. -/
def withExponent (digits : Digits) : List Char :=
  let place := digits.leadingPlace
  let lead :=
    match digits.characters with
    | [] => ['0']
    | [digit] => [digit]
    | digit :: rest => digit :: '.' :: rest
  lead ++ 'e' :: (if place < 0 then '-' else '+') :: padded 2 place.natAbs

/-- The text of a float in a style. -/
def Style.characters (style : Style) (value : Float) : List Char :=
  match Exact.ofFloat value with
  | .finite negative mantissa exponent =>
    let digits := style.digits mantissa exponent
    let place := digits.leadingPlace
    let body :=
      if style.leastPlace ≤ place ∧ place < style.placeLimit then
        positional style.keepsPoint digits
      else withExponent digits
    if negative then '-' :: body else body
  | .infinite negative => (if negative then "-inf" else "inf").toList
  | .notANumber => "nan".toList

/-- The text of a float in a style, as a string. -/
def Style.text (style : Style) (value : Float) : String :=
  String.ofList (style.characters value)

/-- A float with two places after the point; a half in its exact value goes to the even
neighbour. -/
def twoPlaces (value : Float) : String :=
  match Exact.ofFloat value with
  | .finite negative mantissa exponent =>
    let hundredths := ((Quotient.ofBinary mantissa exponent).shift 2).round
    let body := Nat.toDigits 10 (hundredths / 100) ++ '.' :: padded 2 (hundredths % 100)
    String.ofList (if negative then '-' :: body else body)
  | .infinite negative => if negative then "-inf" else "inf"
  | .notANumber => "nan"

end SheetIntake.Decimal
