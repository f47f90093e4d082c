import SheetIntake.Calendar.DateText
import SheetIntake.Calendar.Site
import SheetIntake.Failure
import SheetIntake.Value

/-!
# Numbers and dates in cells

A cell may hold a number or a date as such or spell it as text. Truth values are no numbers and
numbers are no dates. A date with an offset is moved to the clock of the site that reads it.
-/

namespace SheetIntake.Value

open Calendar Decimal Text

/-- The number that a text spells. Digit groups joined by underscores are not accepted. -/
def numberOfText? (content : String) : Option Float :=
  let characters := strip isBlank content.toList
  if characters.contains '_' then none
  else (Numeral.read? digitValue? characters).map Numeral.toFloat

/-- A number that is neither infinite nor undefined. -/
def finite? (number : Float) : Option Float :=
  if isFinite number then some number else none

/-- The finite number that a value holds or spells. An integer beyond all floats is an overflow. -/
def readNumber : Value → Except Failure (Option Float)
  | int value =>
    match ofInteger? value with
    | some number => .ok (some number)
    | none => .error .overflow
  | float value => .ok (finite? value)
  | text value => .ok ((numberOfText? value).bind finite?)
  | _ => .ok none

/-- A moment on the clock of a site, or as it is if its offset is not known. -/
def settle (site : Site) (moment : Moment) : Except Failure (Option DateTime) :=
  match moment.toLocal? site with
  | some clock => .ok (some clock)
  | none => .error .overflow

/-- The date-time that a value holds or spells at a site. -/
def readDate (site : Site) : Value → Except Failure (Option DateTime)
  | moment value => settle site value
  | stamp (some value) => settle site value
  | date value => .ok (some (.atMidnight value))
  | text value =>
    match readDateText site.present value with
    | .notADate => .ok none
    | .yearZero => .error .badValue
    | .moment value => settle site value
  | _ => .ok none

end SheetIntake.Value
