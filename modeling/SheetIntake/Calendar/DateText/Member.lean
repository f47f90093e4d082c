import SheetIntake.Calendar.DateTime

/-!
# Members of a written date

A phrase names up to three numbers that stand for year, month and day. A number with more than two
digits is a year, a month name a month; which of the three the others are follows from their sizes
and their order.
-/

namespace SheetIntake.Calendar.DateText

/-- What a member of a date is known to stand for. -/
inductive Role where
  | year
  | month
  | unnamed
  deriving DecidableEq, Repr

/-- A number of a written date. -/
structure Member where
  role : Role
  value : Nat
  deriving DecidableEq, Repr

/-- The parts of a date that a phrase names. -/
structure Parts where
  year : Option Nat
  month : Option Nat
  day : Option Nat
  deriving DecidableEq, Repr

/-- Whether one of the members has a role. -/
def hasRole (role : Role) (members : List Member) : Bool :=
  members.any fun member => member.role = role

/-- One more member. There is at most one year and one month that is known as such. -/
def addMember? (members : List Member) (role : Role) (value : Nat) : Option (List Member) :=
  if role ≠ .unnamed ∧ hasRole role members = true then none else some (members ++ [⟨role, value⟩])

/-- Whether a number can be the day, given what is known of the month and the year. The value is
`whole`, plus a fraction of one if `more`. -/
def couldBeDay (members : List Member) (whole : Nat) (more : Bool) : Bool :=
  let limit :=
    match members.find? fun member => member.role = .month with
    | none => 31
    | some month =>
      match members.find? fun member => member.role = .year with
      | none => daysInMonth 2000 month.value
      | some year => daysInMonth year.value month.value
  1 ≤ whole && (whole < limit || (whole = limit && !more))

/-- Three numbers whose month is not named. -/
def threeNumbers (first second third : Nat) (yearFirst : Bool) : Parts :=
  if 31 < first ∨ yearFirst = true then ⟨some first, some second, some third⟩
  else if 12 < first then ⟨some third, some second, some first⟩
  else ⟨some third, some first, some second⟩

/-- Two numbers whose month is not named. -/
def twoNumbers (first second : Nat) : Parts :=
  if 31 < first then ⟨some first, some second, none⟩
  else if 31 < second then ⟨some second, some first, none⟩
  else ⟨none, some first, some second⟩

/-- A month and one other number. -/
def monthAnd (month other : Nat) : Parts :=
  if 31 < other then ⟨some other, some month, none⟩ else ⟨none, some month, some other⟩

/-- The year, month and day that the members stand for; more than three are refused. -/
def resolveMembers? : List Member → Option Parts
  | [] => some ⟨none, none, none⟩
  | [⟨.year, year⟩] => some ⟨some year, none, none⟩
  | [⟨.month, month⟩] => some ⟨none, some month, none⟩
  | [⟨.unnamed, other⟩] =>
    some (if 31 < other then ⟨some other, none, none⟩ else ⟨none, none, some other⟩)
  | [⟨.year, year⟩, ⟨.month, month⟩] => some ⟨some year, some month, none⟩
  | [⟨.month, month⟩, ⟨.year, year⟩] => some ⟨some year, some month, none⟩
  | [⟨.month, month⟩, ⟨_, other⟩] => some (monthAnd month other)
  | [⟨_, other⟩, ⟨.month, month⟩] => some (monthAnd month other)
  | [⟨_, first⟩, ⟨_, second⟩] => some (twoNumbers first second)
  | [⟨.year, year⟩, ⟨.month, month⟩, ⟨_, day⟩] => some ⟨some year, some month, some day⟩
  | [⟨.year, year⟩, ⟨_, day⟩, ⟨.month, month⟩] => some ⟨some year, some month, some day⟩
  | [⟨.month, month⟩, ⟨.year, year⟩, ⟨_, day⟩] => some ⟨some year, some month, some day⟩
  | [⟨.month, month⟩, ⟨_, day⟩, ⟨.year, year⟩] => some ⟨some year, some month, some day⟩
  | [⟨_, day⟩, ⟨.month, month⟩, ⟨.year, year⟩] => some ⟨some year, some month, some day⟩
  | [⟨_, day⟩, ⟨.year, year⟩, ⟨.month, month⟩] => some ⟨some year, some month, some day⟩
  | [⟨.month, month⟩, ⟨_, second⟩, ⟨_, third⟩] =>
    some (if 31 < second then ⟨some second, some month, some third⟩
      else ⟨some third, some month, some second⟩)
  | [⟨_, first⟩, ⟨.month, month⟩, ⟨_, third⟩] =>
    some (if 31 < first then ⟨some first, some month, some third⟩
      else ⟨some third, some month, some first⟩)
  | [⟨_, first⟩, ⟨_, second⟩, ⟨.month, month⟩] =>
    some (if 31 < second then ⟨some second, some month, some first⟩
      else ⟨some first, some month, some second⟩)
  | [⟨role, first⟩, ⟨_, second⟩, ⟨_, third⟩] =>
    some (threeNumbers first second third (role = .year))
  | _ => none

/-- The year that a number below a hundred stands for, unless the century is given: the years from
1976 to 2075 are written that way. -/
def fullYear (year : Nat) (centuryGiven : Bool) : Nat :=
  if centuryGiven || 100 ≤ year then year
  else if 76 ≤ year then year + 1900
  else year + 2000

end SheetIntake.Calendar.DateText
