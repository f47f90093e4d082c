import SheetIntake.Decimal.Power

/-!
# Floats as exact numbers

A finite double is a natural number times a power of two. This module takes floats apart into that
exact value, so that printing, rounding and comparison are done in exact arithmetic, and says when
a float is a whole number.
-/

namespace SheetIntake.Decimal

/-- What a float stands for: a signed natural number times a power of two, a signed infinity, or no
number. -/
inductive Exact where
  | finite (negative : Bool) (mantissa : Nat) (exponent : Int)
  | infinite (negative : Bool)
  | notANumber
  deriving DecidableEq, Repr

/-- The exact value of a float, from the three fields of its sixty-four bits. -/
def Exact.ofFloat (value : Float) : Exact :=
  let bits := value.toBits.toNat
  let negative := bits / power 2 63 == 1
  let scale := bits / power 2 52 % power 2 11
  let fraction := bits % power 2 52
  if scale = 2047 then
    if fraction = 0 then .infinite negative else .notANumber
  else if scale = 0 then .finite negative fraction (-1074)
  else .finite negative (power 2 52 + fraction) (Int.ofNat scale - 1075)

/-- A nonnegative rational number as a quotient. -/
structure Quotient where
  numerator : Nat
  denominator : Nat
  deriving DecidableEq, Repr

/-- The quotient that equals a natural number times a power of two. -/
def Quotient.ofBinary (mantissa : Nat) (exponent : Int) : Quotient :=
  if 0 ≤ exponent then ⟨mantissa * power 2 exponent.toNat, 1⟩
  else ⟨mantissa, power 2 (-exponent).toNat⟩

/-- A quotient times a power of ten. -/
def Quotient.shift (quotient : Quotient) (places : Int) : Quotient :=
  if 0 ≤ places then ⟨quotient.numerator * power 10 places.toNat, quotient.denominator⟩
  else ⟨quotient.numerator, quotient.denominator * power 10 (-places).toNat⟩

/-- The nearest natural number to a quotient; a half goes to the even neighbour. -/
def Quotient.round (quotient : Quotient) : Nat :=
  let whole := quotient.numerator / quotient.denominator
  let twice := 2 * (quotient.numerator % quotient.denominator)
  if twice < quotient.denominator then whole
  else if quotient.denominator < twice then whole + 1
  else if whole % 2 = 0 then whole
  else whole + 1

/-- The nearest natural number to a quotient; a half goes up. -/
def Quotient.roundHalfUp (quotient : Quotient) : Nat :=
  (2 * quotient.numerator + quotient.denominator) / (2 * quotient.denominator)

/-- The greatest natural number that does not exceed a quotient. -/
def Quotient.floor (quotient : Quotient) : Nat :=
  quotient.numerator / quotient.denominator

/-- Whether a quotient is a natural number. -/
def Quotient.isWhole (quotient : Quotient) : Bool :=
  quotient.numerator % quotient.denominator == 0

/-- The integer that a float equals, if it equals one. -/
def integer? (value : Float) : Option Int :=
  match Exact.ofFloat value with
  | .finite negative mantissa exponent =>
    let quotient := Quotient.ofBinary mantissa exponent
    if quotient.isWhole then
      some (if negative then -Int.ofNat quotient.floor else Int.ofNat quotient.floor)
    else none
  | .infinite _ | .notANumber => none

/-- The greatest integer that does not exceed a float. -/
def floor? (value : Float) : Option Int :=
  match Exact.ofFloat value with
  | .finite negative mantissa exponent =>
    let quotient := Quotient.ofBinary mantissa exponent
    let size := Int.ofNat quotient.floor
    some (if !negative then size else if quotient.isWhole then -size else -size - 1)
  | .infinite _ | .notANumber => none

/-- The size of what a float has after its whole part, which is a float again. -/
def fraction (value : Float) : Float :=
  match Exact.ofFloat value with
  | .finite _ mantissa exponent =>
    if 0 ≤ exponent then 0.0
    else
      let places := (-exponent).toNat
      Float.ofScientific (mantissa % power 2 places * power 5 places) true places
  | .infinite _ | .notANumber => 0.0

/-- Whether a float is a number other than an infinity. -/
def isFinite (value : Float) : Bool :=
  match Exact.ofFloat value with
  | .finite _ _ _ => true
  | .infinite _ | .notANumber => false

/-- Whether a float is not a number. -/
def isNotANumber (value : Float) : Bool :=
  Exact.ofFloat value == .notANumber

/-- Whether a float is one of the two zeros. -/
def isZero (value : Float) : Bool :=
  match Exact.ofFloat value with
  | .finite _ mantissa _ => mantissa == 0
  | .infinite _ | .notANumber => false

/-- The float nearest to an integer, or none when that is beyond the largest float. -/
def ofInteger? (value : Int) : Option Float :=
  let nearest := Float.ofScientific value.natAbs false 0
  if isFinite nearest then some (if value < 0 then -nearest else nearest) else none

/-- The exponent of the leading decimal digit of a positive quotient: the greatest `k` with
`10 ^ k` at most the quotient. It is found from the lengths in binary, which are at most one place
off. -/
def Quotient.leadingPlace (quotient : Quotient) : Int :=
  let estimate := ((Int.ofNat quotient.numerator.log2 - Int.ofNat quotient.denominator.log2 - 1)
    * 30103).fdiv 100000
  let reaches (place : Int) : Bool := 1 ≤ (quotient.shift (-place)).floor
  if reaches (estimate + 1) then
    if reaches (estimate + 2) then estimate + 2 else estimate + 1
  else if reaches estimate then estimate
  else estimate - 1

end SheetIntake.Decimal
