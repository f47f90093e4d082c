import SheetIntake.Calendar.IsoText
import SheetIntake.Value

/-!
# Wire form of values

What is sent over the wire has no dates, times and durations: they become ISO texts. All other
values are sent as they are.
-/

namespace SheetIntake.Value

mutual

/-- A value in wire form. -/
def toWire : Value → Value
  | moment value => .text value.isoText
  | stamp (some value) => .text value.isoText
  | stamp none => .null
  | date value => .text value.isoText
  | time value => .text value.isoText
  | duration value => .text value.isoText
  | list items => .list (itemsToWire items)
  | record fields => .record (fieldsToWire fields)
  | value => value

/-- The items of a list in wire form. -/
def itemsToWire : List Value → List Value
  | [] => []
  | item :: rest => toWire item :: itemsToWire rest

/-- The fields of a record in wire form. -/
def fieldsToWire : Row → Row
  | [] => []
  | (name, value) :: rest => (name, toWire value) :: fieldsToWire rest

end

/-- The fields of a record keep their names and their order. -/
theorem fieldsToWire_eq_map (fields : Row) :
    fieldsToWire fields = fields.map fun entry => (entry.1, toWire entry.2) := by
  induction fields with
  | nil => simp [fieldsToWire]
  | cons entry rest inductionHypothesis => simp [fieldsToWire, inductionHypothesis]

end SheetIntake.Value
