/-!
# Powers of natural numbers

Powers of two and of ten, by which floats and decimal digits are scaled.
-/

namespace SheetIntake.Decimal

/-- A base multiplied with itself as often as the exponent says. -/
def power (base exponent : Nat) : Nat := Nat.pow base exponent

/-- Nothing is multiplied for the exponent zero. -/
theorem power_zero (base : Nat) : power base 0 = 1 := rfl

/-- A power of a positive base is positive. -/
theorem power_pos {base : Nat} (positive : 0 < base) (exponent : Nat) :
    0 < power base exponent :=
  Nat.pow_pos positive

end SheetIntake.Decimal
