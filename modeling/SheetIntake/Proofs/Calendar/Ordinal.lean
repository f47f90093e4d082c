import Mathlib.Tactic.Common
import SheetIntake.Calendar.DateTime

/-!
# Days and instants by their numbers

The days of the calendar are numbered from 1 without gaps, years after years and months after months
within a year. The year of a day is found by counting, and its month and day by taking months away.
`Date.ofOrdinal?_eq_some_iff` says that this finds exactly the day with a number, and
`DateTime.ofMicros?_eq_some_iff` says the same of date-times and microseconds.
-/

namespace SheetIntake.Calendar

theorem daysInMonth_le (year month : Nat) :
    daysInMonth year month ≤ 31 ∧ (12 < month → daysInMonth year month = 0) := by
  unfold daysInMonth
  split <;> (try split) <;> omega

/-- A month that has days is one of twelve. -/
theorem month_le_of_day {year month day : Nat} (exists_day : IsDate year month day) :
    month ≤ 12 ∧ day ≤ 31 := by
  obtain ⟨_, _, positive, bounded⟩ := exists_day
  obtain ⟨short, outside⟩ := daysInMonth_le year month
  constructor
  · by_contra late
    have empty := outside (by omega)
    omega
  · omega

theorem one_le_month_of_day {year month day : Nat} (exists_day : IsDate year month day) :
    1 ≤ month := by
  obtain ⟨_, _, positive, bounded⟩ := exists_day
  cases month with
  | zero =>
    have empty : daysInMonth year 0 = 0 := rfl
    omega
  | succ month => omega

namespace Date

/-- The number of days in a year. -/
def daysInYear (year : Nat) : Nat := if isLeapYear year then 366 else 365

theorem isLeapYear_iff (year : Nat) :
    isLeapYear year = true ↔ year % 4 = 0 ∧ (year % 100 ≠ 0 ∨ year % 400 = 0) := by
  simp [isLeapYear]

/-- Years of four hundred are years of a hundred, and these are years of four. -/
theorem year_cases (year : Nat) :
    (year % 4 ≠ 0 ∧ year % 100 ≠ 0 ∧ year % 400 ≠ 0) ∨
      (year % 4 = 0 ∧ year % 100 ≠ 0 ∧ year % 400 ≠ 0) ∨
      (year % 4 = 0 ∧ year % 100 = 0 ∧ year % 400 ≠ 0) ∨
      (year % 4 = 0 ∧ year % 100 = 0 ∧ year % 400 = 0) := by
  omega

theorem daysBeforeYear_succ {year : Nat} (positive : 1 ≤ year) :
    daysBeforeYear (year + 1) = daysBeforeYear year + daysInYear year := by
  obtain ⟨passed, rfl⟩ := Nat.exists_eq_add_of_le' positive
  have centuries : passed / 100 ≤ passed / 4 := by omega
  simp only [daysBeforeYear, daysInYear, isLeapYear_iff, Nat.add_sub_cancel, Nat.succ_div,
    Nat.dvd_iff_mod_eq_zero]
  rcases year_cases (passed + 1) with ⟨four, hundred, fourHundred⟩ | ⟨four, hundred, fourHundred⟩ |
    ⟨four, hundred, fourHundred⟩ | ⟨four, hundred, fourHundred⟩
  all_goals
    simp only [four, hundred, fourHundred, if_true, if_false, ne_eq, not_true_eq_false,
      not_false_eq_true, and_true, and_false, or_true, or_false]
    clear four hundred fourHundred
    omega

theorem daysBeforeYear_le {earlier later : Nat} (ordered : earlier ≤ later) :
    daysBeforeYear earlier ≤ daysBeforeYear later := by
  induction ordered with
  | refl => exact Nat.le_refl _
  | @step later _ inductionHypothesis =>
    cases later with
    | zero => exact inductionHypothesis
    | succ later =>
      rw [Nat.succ_eq_add_one, daysBeforeYear_succ (Nat.succ_pos later)]
      exact Nat.le_trans inductionHypothesis (Nat.le_add_right _ _)

theorem daysBeforeMonth_succ {year month : Nat} (positive : 1 ≤ month) :
    daysBeforeMonth year (month + 1) = daysBeforeMonth year month + daysInMonth year month := by
  obtain ⟨passed, rfl⟩ := Nat.exists_eq_add_of_le' positive
  rfl

theorem daysBeforeMonth_le {year earlier later : Nat} (positive : 1 ≤ earlier)
    (ordered : earlier ≤ later) : daysBeforeMonth year earlier ≤ daysBeforeMonth year later := by
  induction ordered with
  | refl => exact Nat.le_refl _
  | step ordered inductionHypothesis =>
    rw [Nat.succ_eq_add_one, daysBeforeMonth_succ (Nat.le_trans positive ordered)]
    exact Nat.le_trans inductionHypothesis (Nat.le_add_right _ _)

/-- The days of the twelve months are those of the year. -/
theorem daysBeforeMonth_thirteen (year : Nat) : daysBeforeMonth year 13 = daysInYear year := by
  simp only [daysBeforeMonth, daysInMonth, daysInYear]
  split <;> rfl

/-- The number of a day lies between those of the days around its month. -/
theorem ordinal_in_month (date : Date) :
    daysBeforeYear date.year + daysBeforeMonth date.year date.month < date.ordinal ∧
      date.ordinal ≤ daysBeforeYear date.year + daysBeforeMonth date.year (date.month + 1) := by
  have month := one_le_month_of_day date.exists_day
  obtain ⟨_, _, positive, bounded⟩ := date.exists_day
  rw [daysBeforeMonth_succ month, ordinal]
  omega

/-- The number of a day lies between those of the days around its year. -/
theorem ordinal_in_year (date : Date) :
    daysBeforeYear date.year < date.ordinal ∧ date.ordinal ≤ daysBeforeYear (date.year + 1) := by
  obtain ⟨after, before⟩ := date.ordinal_in_month
  have months : daysBeforeMonth date.year (date.month + 1) ≤ daysBeforeMonth date.year 13 :=
    daysBeforeMonth_le (Nat.succ_pos _) (Nat.succ_le_succ (month_le_of_day date.exists_day).1)
  rw [daysBeforeMonth_thirteen] at months
  rw [daysBeforeYear_succ date.exists_day.1]
  omega

/-- Days with one number are the same. -/
theorem ordinal_injective {date other : Date} (same : date.ordinal = other.ordinal) :
    date = other := by
  have sameYear : date.year = other.year := by
    obtain ⟨after, before⟩ := date.ordinal_in_year
    obtain ⟨otherAfter, otherBefore⟩ := other.ordinal_in_year
    rcases Nat.lt_trichotomy date.year other.year with earlier | equal | later
    · have years : daysBeforeYear (date.year + 1) ≤ daysBeforeYear other.year :=
        daysBeforeYear_le earlier
      omega
    · exact equal
    · have years : daysBeforeYear (other.year + 1) ≤ daysBeforeYear date.year :=
        daysBeforeYear_le later
      omega
  have sameMonth : date.month = other.month := by
    obtain ⟨after, before⟩ := date.ordinal_in_month
    obtain ⟨otherAfter, otherBefore⟩ := other.ordinal_in_month
    rw [sameYear] at after before
    rcases Nat.lt_trichotomy date.month other.month with earlier | equal | later
    · have months : daysBeforeMonth other.year (date.month + 1) ≤
          daysBeforeMonth other.year other.month :=
        daysBeforeMonth_le (Nat.succ_pos _) earlier
      omega
    · exact equal
    · have months : daysBeforeMonth other.year (other.month + 1) ≤
          daysBeforeMonth other.year date.month :=
        daysBeforeMonth_le (Nat.succ_pos _) later
      omega
  have sameDay : date.day = other.day := by
    rw [ordinal, ordinal, sameYear, sameMonth] at same
    omega
  cases date
  cases other
  cases sameYear
  cases sameMonth
  cases sameDay
  rfl

/-- Taking months away finds the month and the day at a place, if the months last that long. -/
theorem monthAndDay_spec {year fuel month days : Nat} (positive : 1 ≤ month)
    (within : daysBeforeMonth year month + days < daysBeforeMonth year (month + fuel + 1)) :
    let found := monthAndDay year fuel month days
    daysBeforeMonth year found.1 + found.2 = daysBeforeMonth year month + days + 1 ∧
      1 ≤ found.2 ∧ found.2 ≤ daysInMonth year found.1 := by
  induction fuel generalizing month days with
  | zero =>
    rw [Nat.add_zero, daysBeforeMonth_succ positive] at within
    dsimp only [monthAndDay]
    omega
  | succ fuel inductionHypothesis =>
    unfold monthAndDay
    split
    · dsimp only
      omega
    · next later =>
      have next := @daysBeforeMonth_succ year month positive
      have rest : daysBeforeMonth year (month + 1) + (days - daysInMonth year month) <
          daysBeforeMonth year (month + 1 + fuel + 1) := by
        rw [show month + 1 + fuel + 1 = month + (fuel + 1) + 1 by omega]
        omega
      have found := inductionHypothesis (Nat.le_add_left 1 month) rest
      dsimp only at found ⊢
      omega

/-- Where a property that does not begin again is counted, it holds below the count and, if the
count is less than the bound, not at the count. -/
theorem holds_iff_lt_count {holds : Nat → Bool}
    (closed : ∀ earlier later, earlier ≤ later → holds later = true → holds earlier = true)
    (bound : Nat) {index : Nat} (within : index < bound) :
    holds index = true ↔ index < ((List.range bound).filter holds).length := by
  induction bound with
  | zero => omega
  | succ bound inductionHypothesis =>
    have most : ((List.range bound).filter holds).length ≤ bound := by
      simpa using List.length_filter_le holds (List.range bound)
    rw [List.range_succ, List.filter_append, List.length_append]
    by_cases last : holds bound = true
    · have all : (List.range bound).filter holds = List.range bound := by
        rw [List.filter_eq_self]
        intro earlier present
        exact closed earlier bound (Nat.le_of_lt (List.mem_range.mp present)) last
      rw [all, List.length_range, List.filter_cons_of_pos last]
      exact iff_of_true (closed index bound (Nat.le_of_lt_succ within) last) (by simpa using within)
    · rw [List.filter_cons_of_neg last, List.filter_nil, List.length_nil, Nat.add_zero]
      rcases Nat.lt_succ_iff_lt_or_eq.mp within with before | rfl
      · exact inductionHypothesis before
      · exact iff_of_false last (by omega)

/-- The number of days before the first year that is not in the calendar. -/
theorem daysBeforeYear_limit : daysBeforeYear 10000 = 3652059 := rfl

/-- The year that is found for a day is that of the day, for days in the calendar. Otherwise it is
no year of the calendar. -/
theorem yearOfDays_spec (days : Nat) :
    1 ≤ yearOfDays days ∧ daysBeforeYear (yearOfDays days) ≤ days ∧
      (days < daysBeforeYear 10000 → days < daysBeforeYear (yearOfDays days + 1)) ∧
      (daysBeforeYear 10000 ≤ days → 10000 ≤ yearOfDays days) := by
  have closed : ∀ earlier later, earlier ≤ later →
      decide (daysBeforeYear (days / 366 + 1 + later) ≤ days) = true →
        decide (daysBeforeYear (days / 366 + 1 + earlier) ≤ days) = true := by
    intro earlier later ordered reached
    rw [decide_eq_true_eq] at reached ⊢
    exact Nat.le_trans (daysBeforeYear_le (by omega)) reached
  have counted : ∀ index < 30, daysBeforeYear (days / 366 + 1 + index) ≤ days ↔
      index < ((List.range 30).filter fun index =>
        decide (daysBeforeYear (days / 366 + 1 + index) ≤ days)).length := by
    intro index within
    rw [← holds_iff_lt_count closed 30 within, decide_eq_true_eq]
  have found : yearOfDays days = days / 366 + 1 + ((List.range 30).filter fun index =>
      decide (daysBeforeYear (days / 366 + 1 + index) ≤ days)).length - 1 := rfl
  have most : ((List.range 30).filter fun index =>
      decide (daysBeforeYear (days / 366 + 1 + index) ≤ days)).length ≤ 30 :=
    List.length_filter_le _ _
  rw [found, daysBeforeYear_limit]
  generalize ((List.range 30).filter fun index =>
    decide (daysBeforeYear (days / 366 + 1 + index) ≤ days)).length = count at counted most ⊢
  have first : 0 < count := (counted 0 (by omega)).mp (by unfold daysBeforeYear; dsimp only; omega)
  have reached := (counted (count - 1) (by omega)).mpr (by omega)
  have year : days / 366 + 1 + count - 1 = days / 366 + 1 + (count - 1) := by omega
  refine ⟨by omega, by rwa [year], fun within => ?_, fun beyond => ?_⟩
  · -- The guess is at most twenty-nine years early, so that the count stops before the bound.
    have last : count < 30 := by
      by_contra all
      have later := (counted 29 (by omega)).mpr (by omega)
      unfold daysBeforeYear at later
      dsimp only at later
      omega
    have next := mt (counted count last).mp (Nat.lt_irrefl count)
    rw [show days / 366 + 1 + count - 1 + 1 = days / 366 + 1 + count by omega]
    omega
  · by_contra early
    have inCalendar : 10000 - (days / 366 + 1) < 30 := by omega
    have later := (counted _ inCalendar).mp (by
      rw [show days / 366 + 1 + (10000 - (days / 366 + 1)) = 10000 by omega, daysBeforeYear_limit]
      exact beyond)
    omega

/-- The fields that are found for a day of the calendar are those of the day. -/
theorem exists_day_of_days {days : Nat} (within : days < daysBeforeYear 10000) :
    let year := yearOfDays days
    let found := monthAndDay year 11 1 (days - daysBeforeYear year)
    ∃ exists_day : IsDate year found.1 found.2,
      ordinal ⟨year, found.1, found.2, exists_day⟩ = days + 1 := by
  dsimp only
  obtain ⟨positive, after, before, _⟩ := yearOfDays_spec days
  have next := before within
  generalize yearOfDays days = year at positive after next
  have start : daysBeforeMonth year 1 = 0 := rfl
  have inYear : daysBeforeMonth year 1 + (days - daysBeforeYear year) <
      daysBeforeMonth year (1 + 11 + 1) := by
    rw [daysBeforeYear_succ positive] at next
    rw [daysBeforeMonth_thirteen, start]
    omega
  have place := monthAndDay_spec (Nat.le_refl 1) inYear
  dsimp only at place
  generalize monthAndDay year 11 1 (days - daysBeforeYear year) = found at place
  obtain ⟨sum, first, last⟩ := place
  have inCalendar : year ≤ 9999 := by
    by_contra late
    have years : daysBeforeYear 10000 ≤ daysBeforeYear year :=
      daysBeforeYear_le (Nat.lt_of_not_le late)
    omega
  refine ⟨⟨positive, inCalendar, first, last⟩, ?_⟩
  rw [ordinal]
  dsimp only
  omega

/-- A day is found by its number, and by no other. -/
theorem ofOrdinal?_eq_some_iff {ordinal : Int} {date : Date} :
    ofOrdinal? ordinal = some date ↔ (date.ordinal : Int) = ordinal := by
  constructor
  · intro found
    unfold ofOrdinal? at found
    split at found
    · next positive =>
      dsimp only at found
      rw [of?] at found
      split at found
      · next exists_day =>
        have within : ordinal.toNat - 1 < daysBeforeYear 10000 := by
          by_contra beyond
          have late := (yearOfDays_spec (ordinal.toNat - 1)).2.2.2 (Nat.le_of_not_lt beyond)
          have early := exists_day.2.1
          omega
        obtain ⟨_, numbered⟩ := exists_day_of_days within
        cases found
        rw [numbered]
        omega
      · cases found
    · cases found
  · rintro rfl
    obtain ⟨after, before⟩ := date.ordinal_in_year
    have years : daysBeforeYear (date.year + 1) ≤ daysBeforeYear 10000 :=
      daysBeforeYear_le (Nat.succ_le_succ date.exists_day.2.1)
    have within : date.ordinal - 1 < daysBeforeYear 10000 := by omega
    obtain ⟨exists_day, numbered⟩ := exists_day_of_days within
    unfold ofOrdinal?
    rw [if_pos (by omega), Int.toNat_natCast]
    dsimp only
    rw [of?, dif_pos exists_day]
    exact congrArg some (ordinal_injective (by omega))

end Date

namespace DateTime

theorem micros_lt (time : TimeOfDay) : time.micros < microsPerDay := by
  have inRange := time.in_range
  unfold IsTime at inRange
  unfold TimeOfDay.micros microsPerDay
  omega

/-- The time at a number of microseconds within a day is that number after midnight. -/
theorem micros_ofMicros {micros : Nat} (within : micros < microsPerDay) :
    (TimeOfDay.ofMicros micros).micros = micros := by
  unfold microsPerDay at within
  simp only [TimeOfDay.micros, TimeOfDay.ofMicros]
  omega

/-- The microseconds of a date-time are those of the days before it and those of its time. -/
theorem micros_eq (clock : DateTime) :
    clock.micros = ((clock.date.ordinal : Int) - 1) * 86400000000 + (clock.time.micros : Int) :=
  rfl

/-- A date-time is found by its microseconds, and by no other number. -/
theorem ofMicros?_eq_some_iff {micros : Int} {clock : DateTime} :
    ofMicros? micros = some clock ↔ clock.micros = micros := by
  have perDay : Int.ofNat microsPerDay = 86400000000 := rfl
  rw [ofMicros?, perDay, Int.fdiv_eq_ediv_of_nonneg _ (by decide),
    Int.fmod_eq_emod_of_nonneg _ (by decide), Option.map_eq_some_iff]
  simp only [Date.ofOrdinal?_eq_some_iff]
  constructor
  · rintro ⟨date, numbered, rfl⟩
    have within : (micros % 86400000000).toNat < microsPerDay := by
      unfold microsPerDay
      omega
    rw [micros_eq]
    dsimp only
    rw [micros_ofMicros within, numbered]
    omega
  · rintro rfl
    have within := micros_lt clock.time
    unfold microsPerDay at within
    refine ⟨clock.date, ?_, ?_⟩
    · rw [micros_eq]
      omega
    · have rest : (clock.micros % 86400000000).toNat = clock.time.micros := by
        rw [micros_eq]
        omega
      rw [rest, TimeOfDay.ofMicros_micros]

/-- The microseconds of a date-time name it. -/
theorem micros_inj {first second : DateTime} : first.micros = second.micros ↔ first = second := by
  rw [← ofMicros?_eq_some_iff, ofMicros?_eq_some_iff.mpr rfl, Option.some.injEq, eq_comm]

end DateTime

end SheetIntake.Calendar
