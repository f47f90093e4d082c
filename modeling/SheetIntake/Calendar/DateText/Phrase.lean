import SheetIntake.Calendar.DateText.Member
import SheetIntake.Calendar.DateText.Token
import SheetIntake.Decimal.Numeral

/-!
# Date phrases

A phrase names a moment in free order: numbers, English months and weekdays, a time of day with
colons or units, a half of the day, a zone. Words that join these are passed over; any other word
makes the phrase no date. Parts that are not named are January, the first day, year 1 and midnight.
A weekday without a day of the month moves on to the next such day.
-/

namespace SheetIntake.Calendar.DateText

open SheetIntake.Text SheetIntake.Decimal

/-- The names of the months, in order. -/
def monthNames : List (List String) :=
  [["jan", "january"], ["feb", "february"], ["mar", "march"], ["apr", "april"], ["may"],
    ["jun", "june"], ["jul", "july"], ["aug", "august"], ["sep", "sept", "september"],
    ["oct", "october"], ["nov", "november"], ["dec", "december"]]

/-- The names of the weekdays, from Monday on. -/
def weekdayNames : List (List String) :=
  [["mon", "monday"], ["tue", "tuesday"], ["wed", "wednesday"], ["thu", "thursday"],
    ["fri", "friday"], ["sat", "saturday"], ["sun", "sunday"]]

/-- The names of the units of a clock: hours, minutes and seconds. -/
def unitNames : List (List String) :=
  [["h", "hour", "hours"], ["m", "minute", "minutes"], ["s", "second", "seconds"]]

/-- The names of the halves of the day. -/
def halfNames : List (List String) := [["am", "a"], ["pm", "p"]]

/-- The words and marks that are passed over. -/
def joiningWords : List String :=
  [" ", ".", ",", ";", "-", "/", "'", "at", "on", "and", "ad", "m", "t", "of", "st", "nd", "rd",
    "th"]

/-- The names of universal time. -/
def universalNames : List String := ["UTC", "GMT", "Z", "z"]

/-- A token as a word, without regard to the case of its letters. -/
def word (token : Token) : String := String.ofList (token.map Char.toLower)

/-- The place of a token in a list of names, counted from zero. -/
def place? (names : List (List String)) (token : Token) : Option Nat :=
  names.findIdx? fun variants => variants.contains (word token)

/-- Whether a token is passed over. -/
def isJoining (token : Token) : Bool := joiningWords.contains (word token)

/-- Whether a token is one given character. -/
def isMark (mark : Char) (token : Token) : Bool := token == [mark]

/-- A number in a phrase: its digits before the point and those after it. -/
structure Figure where
  whole : List Nat
  places : List Nat
  deriving DecidableEq, Repr

/-- The number a token is. -/
def figure? (token : Token) : Option Figure :=
  match takeDigits digitValue? token with
  | ([], _) => none
  | (whole, []) => some ⟨whole, []⟩
  | (whole, '.' :: rest) =>
    match takeDigits digitValue? rest with
    | ([], _) => none
    | (places, []) => some ⟨whole, places⟩
    | _ => none
  | _ => none

/-- The number a token is if it has digits alone. -/
def count? (token : Token) : Option Nat :=
  match figure? token with
  | some ⟨whole, []⟩ => some (valueOfDigits whole)
  | _ => none

/-- The whole part of a number. -/
def Figure.size (figure : Figure) : Nat := valueOfDigits figure.whole

/-- Whether a number is more than its whole part. -/
def Figure.hasMore (figure : Figure) : Bool := valueOfDigits figure.places != 0

/-- The sixtieths in the fraction of a number, rounded down. -/
def Figure.sixtieths (figure : Figure) : Nat :=
  60 * valueOfDigits figure.places / power 10 figure.places.length

/-- The microseconds in the fraction of a number of seconds; further digits are dropped. -/
def Figure.micros (figure : Figure) : Nat :=
  valueOfDigits ((figure.places ++ List.replicate 6 0).take 6)

/-- What a phrase has named so far. -/
structure Phrase where
  members : List Member := []
  weekday : Option Nat := none
  hour : Option Nat := none
  minute : Option Nat := none
  second : Option Nat := none
  micro : Option Nat := none
  zone : Option Token := none
  offset : Option Int := none

namespace Phrase

/-- One more member given by digits: a year if it has more than two. -/
def addCount? (phrase : Phrase) (token : Token) : Option Phrase := do
  let value ← count? token
  let role := if 2 < token.length then .year else .unnamed
  let members ← addMember? phrase.members role value
  return { phrase with members := members }

/-- One more member given by a number: a year if it is above a hundred. -/
def addFigure? (phrase : Phrase) (figure : Figure) : Option Phrase := do
  let above := 100 < figure.size || (figure.size = 100 && figure.hasMore)
  let members ← addMember? phrase.members (if above then .year else .unnamed) figure.size
  return { phrase with members := members }

/-- A named month, its place being counted from zero. -/
def addMonth? (phrase : Phrase) (place : Nat) : Option Phrase := do
  let members ← addMember? phrase.members .month (place + 1)
  return { phrase with members := members }

/-- A member that is a month name or digits. -/
def addMonthOrCount? (phrase : Phrase) (token : Token) : Option Phrase :=
  match place? monthNames token with
  | some place => phrase.addMonth? place
  | none => phrase.addCount? token

/-- Seconds with their fraction. -/
def withSeconds? (phrase : Phrase) (token : Token) : Option Phrase := do
  let figure ← figure? token
  return { phrase with second := some figure.size, micro := some figure.micros }

/-- Minutes; a fraction of a minute gives the seconds. -/
def withMinutes (phrase : Phrase) (figure : Figure) : Phrase :=
  { phrase with
    minute := some figure.size
    second := if figure.hasMore then some figure.sixtieths else none }

/-- Hours; a fraction of an hour gives the minutes. -/
def withHours (phrase : Phrase) (figure : Figure) : Phrase :=
  { phrase with
    hour := some figure.size
    minute := if figure.hasMore then some figure.sixtieths else phrase.minute }

/-- An hour of a half of the day, zero being the first half. -/
def inHalf (hour half : Nat) : Nat :=
  if hour < 12 ∧ half = 1 then hour + 12
  else if hour = 12 ∧ half = 0 then 0
  else hour

/-- Six digits, or six before a point: year, month and day if no member is known, else hours,
minutes and seconds. -/
def addSix? (phrase : Phrase) (token : Token) : Option Phrase :=
  if phrase.members.isEmpty && !token.contains '.' then do
    let first ← phrase.addCount? (token.take 2)
    let second ← first.addCount? ((token.drop 2).take 2)
    second.addCount? (token.drop 4)
  else do
    let hour ← count? (token.take 2)
    let minute ← count? ((token.drop 2).take 2)
    { phrase with hour := some hour, minute := some minute }.withSeconds? (token.drop 4)

/-- Eight, twelve or fourteen digits: a date, and perhaps hours, minutes and seconds. -/
def addCompact? (phrase : Phrase) (token : Token) : Option Phrase := do
  let withYear ← phrase.addCount? (token.take 4)
  let withMonth ← withYear.addCount? ((token.drop 4).take 2)
  let withDay ← withMonth.addCount? ((token.drop 6).take 2)
  if token.length ≤ 8 then return withDay
  else
    let hour ← count? ((token.drop 8).take 2)
    let minute ← count? ((token.drop 10).take 2)
    let timed := { withDay with hour := some hour, minute := some minute }
    if token.length ≤ 12 then return timed
    else
      let second ← count? (token.drop 12)
      return { timed with second := some second }

/-- Where the unit of a number stands: how many tokens after it the phrase goes on, and the unit. A
unit before the number means that the number counts the next smaller unit. -/
def unit? (before after : List Token) : Option (Nat × Nat) :=
  let ahead (token : Token) := place? unitNames token
  match after.head?.bind ahead with
  | some unit => some (1, unit)
  | none =>
    let skipped :=
      match after with
      | blank :: token :: _ => if isMark ' ' blank then ahead token else none
      | _ => none
    match skipped with
    | some unit => some (2, unit)
    | none =>
      match before.head?.bind ahead with
      | some unit => some (0, unit + 1)
      | none =>
        match after, before with
        | [], blank :: token :: _ =>
          if isMark ' ' blank then (ahead token).map fun unit => (0, unit + 1) else none
        | _, _ => none

/-- A number with a unit. -/
def addUnit? (phrase : Phrase) (token : Token) (figure : Figure) (unit : Nat) : Option Phrase :=
  match unit with
  | 0 => some (phrase.withHours figure)
  | 1 => some (phrase.withMinutes figure)
  | 2 => phrase.withSeconds? token
  | _ => some phrase

/-- Hours before a colon, and what follows it: minutes and perhaps seconds. The result also says
how many tokens were read. -/
def addClock? (phrase : Phrase) (hours : Figure) : List Token → Option (Phrase × Nat)
  | minutes :: rest => do
    let figure ← figure? minutes
    let timed := { phrase with hour := some hours.size }.withMinutes figure
    match rest with
    | colon :: seconds :: _ =>
      if isMark ':' colon then
        let complete ← timed.withSeconds? seconds
        return (complete, 4)
      else return (timed, 2)
    | _ => return (timed, 2)
  | [] => none

/-- A number before a separator, and what follows it: up to two more members with the same
separator between them. -/
def addSeparated? (phrase : Phrase) (token separator : Token) :
    List Token → Option (Phrase × Nat) := fun rest => do
  let first ← phrase.addCount? token
  match rest with
  | [] => return (first, 1)
  | next :: more =>
    if isJoining next then return (first, 1)
    else
      let second ← first.addMonthOrCount? next
      match more with
      | [] => return (second, 2)
      | mark :: final =>
        if mark = separator then
          match final with
          | [] => none
          | last :: _ =>
            let third ← second.addMonthOrCount? last
            return (third, 4)
        else return (second, 2)

/-- A number that stands before a joining word or at the end: an hour with a half of the day after
the word, or a member of the date. -/
def addLoose? (phrase : Phrase) (figure : Figure) (rest : List Token) : Option (Phrase × Nat) :=
  match (rest.drop 1).head?.bind (place? halfNames) with
  | some half => some ({ phrase with hour := some (inHalf figure.size half) }, 2)
  | none => (phrase.addFigure? figure).map fun next => (next, 1)

/-- A number that directly precedes another token: an hour with a half of the day, or a day. -/
def addClose? (phrase : Phrase) (figure : Figure) (next : Token) : Option (Phrase × Nat) :=
  match place? halfNames next with
  | some half =>
    if figure.size < 24 then some ({ phrase with hour := some (inHalf figure.size half) }, 1)
    else none
  | none =>
    if couldBeDay phrase.members figure.size figure.hasMore then
      (phrase.addFigure? figure).map fun added => (added, 0)
    else none

/-- Whether a number after a whole date is the time of day in two or four digits. -/
def isCompactTime (phrase : Phrase) (token : Token) (after : List Token) : Bool :=
  phrase.members.length == 3 && (token.length == 2 || token.length == 4) && phrase.hour.isNone &&
    match after with
    | [] => true
    | next :: _ => !isMark ':' next && (place? unitNames next).isNone

/-- A number of a phrase. The result says how many of the tokens after it were read with it. -/
def addNumber? (phrase : Phrase) (before : List Token) (token : Token) (figure : Figure)
    (after : List Token) : Option (Phrase × Nat) :=
  if phrase.isCompactTime token after then do
    let hour ← count? (token.take 2)
    let timed := { phrase with hour := some hour }
    if token.length = 4 then
      let minute ← count? (token.drop 2)
      return ({ timed with minute := some minute }, 0)
    else return (timed, 0)
  else if token.length = 6 ∨ (6 < token.length ∧ token.idxOf '.' = 6) then
    (phrase.addSix? token).map fun added => (added, 0)
  else if token.length = 8 ∨ token.length = 12 ∨ token.length = 14 then
    (phrase.addCompact? token).map fun added => (added, 0)
  else
    match unit? before after with
    | some (read, unit) => (phrase.addUnit? token figure unit).map fun added => (added, read)
    | none =>
      match after with
      | [] => phrase.addLoose? figure []
      | next :: rest =>
        if isMark ':' next ∧ rest ≠ [] then phrase.addClock? figure rest
        else if isMark '-' next ∨ isMark '/' next ∨ isMark '.' next then
          phrase.addSeparated? token next rest
        else if isJoining next then phrase.addLoose? figure after
        else phrase.addClose? figure next

/-- A month name. A separator or the word "of" joins it with what follows. -/
def addMonthName? (phrase : Phrase) (place : Nat) (after : List Token) :
    Option (Phrase × Nat) := do
  let named ← phrase.addMonth? place
  match after with
  | mark :: rest =>
    if isMark '-' mark ∨ isMark '/' mark then
      match rest with
      | [] => none
      | next :: more =>
        let second ← named.addCount? next
        match more with
        | again :: final =>
          if again = mark then
            match final with
            | [] => none
            | last :: _ =>
              let third ← second.addCount? last
              return (third, 4)
          else return (second, 2)
        | [] => return (second, 2)
    else
      match rest with
      | joining :: blank :: year :: _ =>
        if isMark ' ' mark ∧ isMark ' ' blank ∧ word joining = "of" then
          match count? year with
          | some value =>
            let members ← addMember? named.members .year (fullYear value false)
            return ({ named with members := members }, 4)
          | none => return (named, 4)
        else return (named, 0)
      | _ => return (named, 0)
  | [] => return (named, 0)

/-- Whether a token can be the name of the zone. -/
def couldBeZone (phrase : Phrase) (token : Token) : Bool :=
  phrase.hour.isSome && phrase.zone.isNone && phrase.offset.isNone && token.length ≤ 5 &&
    (token.all Char.isUpper || universalNames.contains (String.ofList token))

/-- The minutes of a zone with a known name. -/
def zoneOffset? (token : Token) : Option Int :=
  if universalNames.contains (String.ofList token) then some 0 else none

/-- A zone in parentheses after an offset, with the number of its tokens. -/
def addZoneNote (phrase : Phrase) : List Token → Phrase × Nat
  | joining :: left :: name :: right :: _ =>
    let unnamed := { phrase with offset := none }
    if isJoining joining && isMark '(' left && isMark ')' right && 3 ≤ name.length &&
        unnamed.couldBeZone name then
      ({ phrase with zone := some name }, 4)
    else (phrase, 0)
  | _ => (phrase, 0)

/-- The hours and minutes of an offset after its sign, and the number of their tokens: four
digits, or hours and perhaps minutes after a colon. -/
def offsetSize? : List Token → Option (Nat × Nat × Nat)
  | [] => none
  | token :: rest =>
    if token.length = 4 then do
      let hours ← count? (token.take 2)
      let minutes ← count? (token.drop 2)
      return (hours, minutes, 1)
    else if rest.head?.any (isMark ':') then do
      let hours ← count? token
      let minutes ← (rest.drop 1).head?.bind count?
      return (hours, minutes, 3)
    else if token.length ≤ 2 then (count? token).map fun hours => (hours, 0, 1)
    else none

/-- An offset after its sign. -/
def addOffset? (phrase : Phrase) (ahead : Bool) (after : List Token) :
    Option (Phrase × Nat) := do
  let (hours, minutes, read) ← offsetSize? after
  let size := Int.ofNat (hours * 60 + minutes)
  let shifted := { phrase with offset := some (if ahead then size else -size) }
  let (noted, extra) := shifted.addZoneNote (after.drop read)
  return (noted, read + extra)

/-- What one token adds to a phrase. The result has the tokens that remain to be read and the
number of tokens that were read with it. -/
def step? (phrase : Phrase) (before : List Token) (token : Token) (after : List Token) :
    Option (Phrase × Nat × List Token) :=
  let reading (result : Option (Phrase × Nat)) := result.map fun (next, read) => (next, read, after)
  match figure? token with
  | some figure => reading (phrase.addNumber? before token figure after)
  | none =>
    match place? weekdayNames token with
    | some weekday => some ({ phrase with weekday := some weekday }, 0, after)
    | none =>
      match place? monthNames token with
      | some place => reading (phrase.addMonthName? place after)
      | none =>
        match place? halfNames token with
        | some half =>
          match phrase.hour with
          | some hour =>
            if hour ≤ 12 then some ({ phrase with hour := some (inHalf hour half) }, 0, after)
            else none
          | none => none
        | none =>
          if phrase.couldBeZone token then
            let named := { phrase with zone := some token, offset := zoneOffset? token }
            let shifting := { named with
              offset := none
              zone := if (zoneOffset? token).isSome then none else some token }
            match after with
            | sign :: rest =>
              if isMark '+' sign then some (shifting, 0, ['-'] :: rest)
              else if isMark '-' sign then some (shifting, 0, ['+'] :: rest)
              else some (named, 0, after)
            | [] => some (named, 0, [])
          else if phrase.hour.isSome && (isMark '+' token || isMark '-' token) then
            reading (phrase.addOffset? (isMark '+' token) after)
          else if isJoining token then some (phrase, 0, after)
          else none

/-- Reads all tokens. Every step reads at least one, so as many steps as there are tokens are
enough. `before` holds the tokens already read, the last one first. -/
def readFrom? : Nat → Phrase → List Token → List Token → Option Phrase
  | _, phrase, _, [] => some phrase
  | 0, _, _, _ :: _ => none
  | fuel + 1, phrase, before, token :: rest => do
    let (next, read, after) ← phrase.step? before token rest
    readFrom? fuel next ((after.take read).reverse ++ token :: before) (after.drop read)

/-- Whether a phrase names any part of a date or a time. -/
def namesSomething (phrase : Phrase) (parts : Parts) : Bool :=
  parts.year.isSome || parts.month.isSome || parts.day.isSome || phrase.hour.isSome ||
    phrase.minute.isSome || phrase.second.isSome || phrase.micro.isSome

/-- The clock of a phrase, before the offset. -/
def clock? (phrase : Phrase) (parts : Parts) : Option DateTime := do
  let year := parts.year.map fun year => fullYear year (hasRole .year phrase.members)
  let clock ← DateTime.of? (year.getD 1) (parts.month.getD 1) (parts.day.getD 1)
    (phrase.hour.getD 0) (phrase.minute.getD 0) (phrase.second.getD 0) (phrase.micro.getD 0)
  match phrase.weekday, parts.day with
  | some weekday, none =>
    let days := (weekday + 7 - clock.date.weekday) % 7
    clock.addMicros? (Int.ofNat (days * microsPerDay))
  | _, _ => some clock

/-- The offset of a phrase. A zone that is not known makes it no date, unless an offset is given
too; universal time is never shifted. -/
def offset? (phrase : Phrase) : Option (Option Offset) :=
  match phrase.zone with
  | none =>
    match phrase.offset with
    | none => some none
    | some minutes => (Offset.of? minutes).map some
  | some zone =>
    if universalNames.contains (String.ofList zone) then some (some .utc)
    else
      match phrase.offset with
      | none => none
      | some minutes => (Offset.of? minutes).map some

/-- The moment that a phrase names. With `complete`, year, month and day have to be named. -/
def moment? (complete : Bool) (phrase : Phrase) : Option Moment := do
  let parts ← resolveMembers? phrase.members
  if !phrase.namesSomething parts then none
  else if complete && !(parts.year.isSome && parts.month.isSome && parts.day.isSome) then none
  else
    let clock ← phrase.clock? parts
    let offset ← phrase.offset?
    return ⟨clock, offset⟩

end Phrase

/-- The moment that a phrase names. -/
def readPhrase? (complete : Bool) (characters : List Char) : Option Moment := do
  let pieces := tokens characters
  let phrase ← Phrase.readFrom? pieces.length {} [] pieces
  phrase.moment? complete

end SheetIntake.Calendar.DateText
