import SheetIntake.Failure
import SheetIntake.Value

/-!
# Replies

A reply is what a pipeline reports: whether it succeeded, its data, its error text and a status. It
can be made from named arguments, which may be any values; a status has to be one of the registered
numbers. A reply made in one of the fixed ways has its own parameters and defaults.
-/

namespace SheetIntake.Service

/-- The outcome of a pipeline. -/
structure Reply where
  success : Value
  data : Value
  error : Value
  status : Nat

/-- The ways to make a reply. -/
inductive ReplyForm where
  | new
  | ok
  | invalidInput
  | payloadTooLarge
  | serverError
  deriving DecidableEq, Repr

/-- A parameter: its name, and its value where no argument is given. -/
structure Parameter where
  name : String
  absent : Option Value

namespace ReplyForm

/-- The parameters of a way to make a reply. -/
def parameters : ReplyForm → List Parameter
  | new => [⟨"success", none⟩, ⟨"data", some .null⟩, ⟨"error", some .null⟩,
      ⟨"status_code", some .null⟩]
  | ok => [⟨"data", none⟩, ⟨"status_code", some (.int 200)⟩]
  | invalidInput => [⟨"error", some (.text "Invalid input data")⟩]
  | payloadTooLarge => [⟨"error", some (.text "File too large.")⟩]
  | serverError => [⟨"error", some (.text "Internal server error")⟩]

/-- The values of the parameters in order. Each needs an argument or a default, and no other
argument may be given. -/
def arguments (form : ReplyForm) (given : Row) : Except Failure (List Value) :=
  if given.all fun entry => form.parameters.any (·.name = entry.1) then
    form.parameters.mapM fun parameter =>
      match (Assoc.get? given parameter.name).or parameter.absent with
      | some value => .ok value
      | none => .error .badType
  else .error .badType

end ReplyForm

namespace Reply

/-- The first and the last of each run of registered status numbers. -/
def registeredRanges : List (Nat × Nat) :=
  [(100, 103), (200, 208), (226, 226), (300, 305), (307, 308), (400, 418), (421, 426), (428, 429),
    (431, 431), (451, 451), (500, 508), (510, 511)]

/-- Whether a number is a registered status. -/
def isRegistered (number : Nat) : Bool :=
  registeredRanges.any fun range => range.1 ≤ number && number ≤ range.2

/-- The status that a value names. -/
def readStatus (value : Value) : Except Failure Nat :=
  let number? : Option Int :=
    match value with
    | .int number => some number
    | .float number => Decimal.integer? number
    | _ => none
  match number? with
  | some number =>
    if 0 ≤ number ∧ isRegistered number.toNat then .ok number.toNat else .error .badValue
  | none => .error .badValue

/-- A reply. Without a status it has the usual one for success or failure. -/
def make (success data error status : Value) : Except Failure Reply :=
  match status with
  | .null => .ok ⟨success, data, error, if success.isTruthy then 200 else 400⟩
  | status => (readStatus status).map fun number => ⟨success, data, error, number⟩

/-- A reply that reports a failure. -/
def failed (error : Value) (status : Nat) : Reply := ⟨.bool false, .null, error, status⟩

/-- The reply made in a way from named arguments. -/
def ofArguments (form : ReplyForm) (given : Row) : Except Failure Reply := do
  match form, ← form.arguments given with
  | .new, [success, data, error, status] => make success data error status
  | .ok, [data, status] => make (.bool true) data .null status
  | .invalidInput, [error] => return failed error 400
  | .payloadTooLarge, [error] => return failed error 413
  | .serverError, [error] => return failed error 500
  | _, _ => .error .badType

/-- Whether a reply reports a failure. -/
def isFailure (reply : Reply) : Bool := !reply.success.isTruthy

/-- What a failed reply sends to the client. -/
def body (reply : Reply) : Row := [("error", reply.error)]

end Reply

end SheetIntake.Service
