/-!
# Column rules

A rule says what the cells of one column must hold: texts, numbers or dates, each with conditions
of its own, and for every kind whether a value is required and which values are allowed.
-/

namespace SheetIntake

/-- The kind of value a column holds, with the conditions of that kind. -/
inductive RuleKind where
  | text
  | number (least : Option Float)
  | date (currentMonth : Bool)

namespace RuleKind

/-- The word for a kind in a schema file. -/
def name : RuleKind → String
  | text => "string"
  | number _ => "number"
  | date _ => "date"

end RuleKind

/-- A rule for the cells of one column. -/
structure Rule where
  kind : RuleKind
  required : Bool := false
  allowed : Option (List String) := none

end SheetIntake
