import SheetIntake.Failure

/-!
# Row errors

An error is tied to a worksheet row by its number, which is at least one.
-/

namespace SheetIntake

/-- Something that is wrong with a row. -/
structure RowError where
  row : Nat
  message : String
  row_pos : 1 ≤ row
  deriving DecidableEq

/-- The error of a row with the given number; a number below one is a fault. -/
def RowError.report (row : Int) (message : String) : Except Failure RowError :=
  if row_pos : 1 ≤ row.toNat then .ok ⟨row.toNat, message, row_pos⟩
  else .error (.invalid [⟨.belowLeast, [.name "row"]⟩])

end SheetIntake
