import SheetIntake.Calendar.DateTime

/-!
# Local time

Dates are read at a site: a place with a clock and a time zone. A moment with an offset is moved to
the local clock by way of universal time, and on either of the two clocks it can leave the years 1
to 9999.
-/

namespace SheetIntake.Calendar

/-- The clock of a place and its distance from universal time. -/
structure Site where
  /-- What the local clock shows while dates are read. -/
  present : DateTime
  /-- How many seconds the local clock is ahead of universal time, by the seconds passed since the
  start of 1970. It changes where the clock is put forward or back. -/
  ahead : Int → Int
  less_than_day : ∀ second, (ahead second).natAbs < 86400

namespace Site

/-- A site with a clock of universal time. -/
def universal (present : DateTime) : Site where
  present := present
  ahead := fun _ => 0
  less_than_day := fun _ => by decide

end Site

/-- The whole seconds from the start of 1970 to a date-time on the clock of universal time. -/
def DateTime.unixSecond (universal : DateTime) : Int :=
  (universal.micros - epochMicros).fdiv 1000000

/-- What the clock of a site shows at a moment. A moment without an offset is taken as it is; none
is given for a moment that leaves the years 1 to 9999. -/
def Moment.toLocal? (moment : Moment) (site : Site) : Option DateTime :=
  match moment.offset with
  | none => some moment.clock
  | some offset => do
    let universal ← moment.clock.addMicros? (-(offset.minutes * 60000000))
    universal.addMicros? (site.ahead universal.unixSecond * 1000000)

end SheetIntake.Calendar
