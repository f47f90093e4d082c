import SheetIntake.Decimal.Exact

/-!
# Decimal digits of floats

Two ways to choose decimal digits for a finite float: the fewest digits that read back as the same
float, and a fixed number of digits, counted from the leading one or after the point. All
comparisons are exact.
-/

namespace SheetIntake.Decimal

/-- The number `coefficient * 10 ^ exponent`. -/
structure Digits where
  coefficient : Nat
  exponent : Int
  deriving DecidableEq, Repr

/-- The decimal digits of the coefficient. -/
def Digits.characters (digits : Digits) : List Char :=
  Nat.toDigits 10 digits.coefficient

/-- The exponent of the leading digit. -/
def Digits.leadingPlace (digits : Digits) : Int :=
  digits.exponent + Int.ofNat digits.characters.length - 1

/-- The same number without zeros at the end of the coefficient, at most `count` of which are
removed. -/
def Digits.trimmed : Nat → Digits → Digits
  | 0, digits => digits
  | count + 1, digits =>
    if digits.coefficient ≠ 0 ∧ digits.coefficient % 10 = 0 then
      Digits.trimmed count ⟨digits.coefficient / 10, digits.exponent + 1⟩
    else digits

/-- A positive float `mantissa * 2 ^ exponent` in units of a quarter of its last binary place, with
the open or closed interval of numbers that are nearer to it than to any other float. The lower
neighbour of a power of two is only half as far away. -/
structure Cell where
  lower : Quotient
  value : Quotient
  upper : Quotient
  closed : Bool

/-- The interval around a positive float. Its ends belong to it when the mantissa is even. -/
def Cell.around (mantissa : Nat) (exponent : Int) : Cell :=
  let narrow := mantissa = power 2 52 ∧ exponent ≠ -1074
  { lower := .ofBinary (4 * mantissa - if narrow then 1 else 2) (exponent - 2)
    value := .ofBinary (4 * mantissa) (exponent - 2)
    upper := .ofBinary (4 * mantissa + 2) (exponent - 2)
    closed := mantissa % 2 == 0 }

/-- Whether `coefficient * 10 ^ place` reads back as the float of the interval. -/
def Cell.holds (cell : Cell) (coefficient : Nat) (place : Int) : Bool :=
  let lower := cell.lower.shift (-place)
  let upper := cell.upper.shift (-place)
  let fromLower := coefficient * lower.denominator
  let fromUpper := coefficient * upper.denominator
  if cell.closed then lower.numerator ≤ fromLower && fromUpper ≤ upper.numerator
  else lower.numerator < fromLower && fromUpper < upper.numerator

/-- The multiple of `10 ^ place` nearest to the float, if one of the two multiples beside the float
reads back as the float. -/
def Cell.onGrid? (cell : Cell) (place : Int) : Option Nat :=
  let value := cell.value.shift (-place)
  let below := value.floor
  let nearest := value.round
  let other := if nearest = below then below + 1 else below
  if cell.holds nearest place then some nearest
  else if cell.holds other place then some other
  else none

/-- Tries ever finer grids, `count` of them, beginning at a place. -/
def Cell.firstGrid (cell : Cell) : Nat → Int → Digits
  | 0, place => ⟨(cell.value.shift (-place)).round, place⟩
  | count + 1, place =>
    match cell.onGrid? place with
    | some coefficient => ⟨coefficient, place⟩
    | none => cell.firstGrid count (place - 1)

/-- The fewest digits that read back as the float `mantissa * 2 ^ exponent`; of those the nearest.
Seventeen digits always suffice. -/
def Digits.shortest (mantissa : Nat) (exponent : Int) : Digits :=
  if mantissa = 0 then ⟨0, 0⟩
  else
    let cell := Cell.around mantissa exponent
    (cell.firstGrid 16 cell.value.leadingPlace).trimmed 20

/-- A number of digits from the leading one on, with a half going to the even neighbour; zeros at
the end are dropped. -/
def Digits.significant (count : Nat) (mantissa : Nat) (exponent : Int) : Digits :=
  if mantissa = 0 then ⟨0, 0⟩
  else
    let value := Quotient.ofBinary mantissa exponent
    let place := value.leadingPlace - Int.ofNat count + 1
    Digits.trimmed (count + 1) ⟨(value.shift (-place)).round, place⟩

end SheetIntake.Decimal
