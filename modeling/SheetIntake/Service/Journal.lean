import SheetIntake.Decimal.Text
import SheetIntake.Value

/-!
# The journal of stages

Each stage of a pipeline is logged when it starts and when it ends. The lines carry the identifier
of the request and the fields that the stage was given; the last line adds how long the stage took.
A stage that fails is logged as an error, and the failure goes on to the caller.
-/

namespace SheetIntake.Service

/-- How grave a line is. -/
inductive LogLevel where
  | info
  | error
  deriving DecidableEq, Repr

/-- The word for how grave a line is. -/
def LogLevel.name : LogLevel → String
  | info => "info"
  | error => "error"

/-- A line of the journal. -/
structure LogLine where
  level : LogLevel
  message : String
  fields : Row
  showsFailure : Bool

/-- A stage as it is logged. -/
structure StageLog where
  lines : List LogLine
  request : Value
  duration : Float
  failure : Option String

namespace StageLog

/-- The field that names the request. -/
def requestField : String := "request_id"

/-- The field that says how long a stage took. -/
def durationField : String := "duration"

/-- The line at the start of a stage. -/
def opening (name : String) (fields : Row) : LogLine :=
  ⟨.info, "Starting " ++ name, fields, false⟩

/-- The line at the end of a stage. -/
def closing (name : String) (fields : Row) (duration : Float) (failure : Option String) :
    LogLine :=
  let took := name ++ " in " ++ Decimal.twoPlaces duration ++ "s"
  match failure with
  | none => ⟨.info, "Completed " ++ took, fields, false⟩
  | some text => ⟨.error, "Failed " ++ took ++ ": " ++ text, fields, true⟩

/-- The journal of a stage that ran from one instant to another with the given fields, and failed if
there is a text for the failure. Given fields take the place of those that the journal adds. -/
def ofStage (name : String) (given : Row) (start stop : Float) (failure : Option String) :
    StageLog :=
  let request := Row.field given requestField
  let others := given.filter fun entry => entry.1 ≠ requestField
  let duration := stop - start
  let opened := Assoc.putAll [(requestField, request)] others
  let closed := Assoc.putAll [(requestField, request), (durationField, .float duration)] others
  ⟨[opening name opened, closing name closed duration failure], request, duration, failure⟩

end StageLog

end SheetIntake.Service
