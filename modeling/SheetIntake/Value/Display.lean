import SheetIntake.Calendar.IsoText
import SheetIntake.Decimal.Text
import SheetIntake.Text.Quoted
import SheetIntake.Value

/-!
# Display of values

`plainText` is how a value reads in a header. `sourceText` is how it reads inside a list or a
record: texts are quoted, and dates, times and durations name their kind and their fields.
-/

namespace SheetIntake

open Calendar Decimal Text

/-- Numbers in parentheses after a name. -/
def fieldsText (name : String) (fields : List String) : String :=
  name ++ "(" ++ ", ".intercalate fields ++ ")"

namespace Calendar

/-- A duration as whole days, if there are any, then hours, minutes and seconds. -/
def Duration.plainText (duration : Duration) : String :=
  let days := duration.days
  let seconds := duration.seconds
  let dayText :=
    if days = 0 then ""
    else toString days ++ (if days.natAbs = 1 then " day, " else " days, ")
  let clock := Nat.toDigits 10 (seconds / 3600) ++ ':' :: fixedDigits 2 (seconds / 60 % 60) ++
    ':' :: fixedDigits 2 (seconds % 60) ++ fractionCharacters duration.microseconds
  dayText ++ String.ofList clock

/-- The named parts of a duration that are not zero. -/
def Duration.sourceParts (duration : Duration) : List String :=
  let part (name : String) (amount : Int) : List String :=
    if amount = 0 then [] else [name ++ "=" ++ toString amount]
  part "days" duration.days ++ part "seconds" duration.seconds ++
    part "microseconds" duration.microseconds

/-- A duration inside a list or a record. -/
def Duration.sourceText (duration : Duration) : String :=
  let parts := duration.sourceParts
  fieldsText "datetime.timedelta" (if parts.isEmpty then ["0"] else parts)

/-- The fields of a time: hours and minutes always, the rest as far as it is not zero. -/
def TimeOfDay.sourceFields (time : TimeOfDay) : List String :=
  let seconds :=
    if time.micro ≠ 0 then [time.second, time.micro]
    else if time.second ≠ 0 then [time.second]
    else []
  ([time.hour, time.minute] ++ seconds).map toString

/-- A time of day inside a list or a record. -/
def TimeOfDay.sourceText (time : TimeOfDay) : String :=
  fieldsText "datetime.time" time.sourceFields

/-- The fields of a date. -/
def Date.sourceFields (date : Date) : List String :=
  [date.year, date.month, date.day].map toString

/-- A date inside a list or a record. -/
def Date.sourceText (date : Date) : String :=
  fieldsText "datetime.date" date.sourceFields

/-- An offset inside a list or a record. -/
def Offset.sourceText (offset : Offset) : String :=
  if offset.minutes = 0 then "datetime.timezone.utc"
  else
    fieldsText "datetime.timezone" [(Duration.ofFields 0 (offset.minutes * 60) 0).sourceText]

/-- A moment inside a list or a record. -/
def Moment.sourceText (moment : Moment) : String :=
  let zone :=
    match moment.offset with
    | some offset => ["tzinfo=" ++ offset.sourceText]
    | none => []
  fieldsText "datetime.datetime"
    (moment.clock.date.sourceFields ++ moment.clock.time.sourceFields ++ zone)

/-- The zone of a stamp. -/
def Offset.stampZone (offset : Offset) : String :=
  if offset.minutes = 0 then "UTC" else "UTC" ++ String.ofList offset.isoCharacters

/-- A stamp inside a list or a record. -/
def stampSourceText : Option Moment → String
  | none => "NaT"
  | some moment =>
    let zone :=
      match moment.offset with
      | some offset => [", tz=" ++ quoted offset.stampZone]
      | none => []
    "Timestamp(" ++ quoted (String.ofList (moment.charactersWith ' ')) ++ "".intercalate zone ++ ")"

end Calendar

namespace Value

mutual

/-- A value inside a list or a record. -/
def sourceText : Value → String
  | null => "None"
  | bool value => if value then "True" else "False"
  | int value => toString value
  | float value => exactStyle.text value
  | text value => quoted value
  | moment value => value.sourceText
  | stamp value => stampSourceText value
  | date value => value.sourceText
  | time value => value.sourceText
  | duration value => value.sourceText
  | list items => "[" ++ ", ".intercalate (itemTexts items) ++ "]"
  | record fields => "\x7b" ++ ", ".intercalate (entryTexts fields) ++ "\x7d"

/-- The values of a list, each as it stands inside the list. -/
def itemTexts : List Value → List String
  | [] => []
  | item :: rest => sourceText item :: itemTexts rest

/-- The entries of a record, each with its quoted name. -/
def entryTexts : List (String × Value) → List String
  | [] => []
  | (name, value) :: rest => (quoted name ++ ": " ++ sourceText value) :: entryTexts rest

end

/-- A value as it reads by itself. -/
def plainText : Value → String
  | text value => value
  | moment value => String.ofList (value.charactersWith ' ')
  | stamp (some value) => String.ofList (value.charactersWith ' ')
  | date value => value.isoText
  | time value => value.isoText
  | duration value => value.plainText
  | value => value.sourceText

end Value

end SheetIntake
