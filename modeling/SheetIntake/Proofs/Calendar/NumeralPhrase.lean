import SheetIntake.Calendar.DateText
import SheetIntake.Proofs.Calendar.PhraseText
import SheetIntake.Proofs.Decimal.NumeralText

/-!
# Numerals read as phrases

A phrase that is a numeral alone names a year or a day, or it has six, eight, twelve or fourteen
digits without a mark between them and is cut into two digits each. With a point among its
characters it is a time at most. `NumeralNames` lists what can come out.
-/

namespace SheetIntake.Calendar

open SheetIntake.Decimal SheetIntake.Text

/-- The digits of a date without marks between them, as one number. -/
def Date.compact (date : Date) : Nat :=
  (date.year * 100 + date.month) * 100 + date.day

/-- The date-times that a numeral can name, by the number before its point and whether there are no
digits behind it. -/
inductive NumeralNames (number : Nat) (isWhole : Prop) : DateTime → Prop
  /-- A time of day, in the first year of the calendar. -/
  | time {clock : DateTime} (first : clock.date.year = 1) : NumeralNames number isWhole clock
  /-- A year or a day, at midnight. -/
  | day {date : Date} (positive : 1 ≤ number) (bounded : number ≤ 9999) :
    NumeralNames number isWhole (.atMidnight date)
  /-- A date of six digits, whose year is one of those that are written with two. -/
  | short {clock : DateTime} (whole : isWhole) (bounded : number < 1000000)
    (late : 1976 ≤ clock.date.year) : NumeralNames number isWhole clock
  /-- Eight digits. -/
  | compact {date : Date} (whole : isWhole) (same : number = date.compact) :
    NumeralNames number isWhole (.atMidnight date)
  /-- Twelve digits. -/
  | toMinute {date : Date} {time : TimeOfDay} (whole : isWhole)
    (exact : time.second = 0 ∧ time.micro = 0)
    (same : number = (date.compact * 100 + time.hour) * 100 + time.minute) :
    NumeralNames number isWhole ⟨date, time⟩
  /-- Fourteen digits. -/
  | toSecond {date : Date} {time : TimeOfDay} (whole : isWhole) (exact : time.micro = 0)
    (same : number = ((date.compact * 100 + time.hour) * 100 + time.minute) * 100 + time.second) :
    NumeralNames number isWhole ⟨date, time⟩

/-- A date-time without hours, minutes and seconds is midnight. -/
theorem DateTime.eq_atMidnight {clock : DateTime}
    (zero : clock.time.hour = 0 ∧ clock.time.minute = 0 ∧ clock.time.second = 0 ∧
      clock.time.micro = 0) : clock = .atMidnight clock.date := by
  obtain ⟨date, time⟩ := clock
  obtain ⟨hour, minute, second, micro⟩ := zero
  exact congrArg _ (TimeOfDay.ext hour minute second micro)

namespace DateText

namespace Phrase

/-- A phrase without a weekday and a zone has the clock of its members and its time. -/
theorem clock_of_moment? {phrase : Phrase} {found : Moment}
    (plain : phrase.weekday = none ∧ phrase.zone = none ∧ phrase.offset = none)
    (named : phrase.moment? false = some found) :
    found.offset = none ∧ ∃ parts, resolveMembers? phrase.members = some parts ∧
      DateTime.of?
        ((parts.year.map fun year => fullYear year (hasRole .year phrase.members)).getD 1)
        (parts.month.getD 1) (parts.day.getD 1) (phrase.hour.getD 0) (phrase.minute.getD 0)
        (phrase.second.getD 0) (phrase.micro.getD 0) = some found.clock := by
  obtain ⟨noWeekday, noZone, noOffset⟩ := plain
  obtain ⟨parts, resolved, onClock⟩ := Option.bind_eq_some_iff.mp named
  split at onClock
  · cases onClock
  · rw [Bool.false_and, if_neg Bool.false_ne_true] at onClock
    obtain ⟨clock, clockRead, onOffset⟩ := Option.bind_eq_some_iff.mp onClock
    obtain ⟨offset, offsetRead, same⟩ := Option.bind_eq_some_iff.mp onOffset
    cases same
    simp only [offset?, noZone, noOffset, Option.some.injEq] at offsetRead
    obtain ⟨plainClock, placed, onWeekday⟩ := Option.bind_eq_some_iff.mp clockRead
    simp only [noWeekday, Option.some.injEq] at onWeekday
    subst onWeekday
    exact ⟨offsetRead.symm, parts, resolved, placed⟩

variable {number : Nat} {isWhole : Prop} {found : Moment}

/-- A time alone is one of the first year. -/
theorem names_of_time {phrase : Phrase}
    (plain : phrase.weekday = none ∧ phrase.zone = none ∧ phrase.offset = none)
    (none : phrase.members = []) (named : phrase.moment? false = some found) :
    found.offset = Option.none ∧ NumeralNames number isWhole found.clock := by
  obtain ⟨noOffset, parts, resolved, dated⟩ := clock_of_moment? plain named
  rw [none] at resolved
  cases resolved
  exact ⟨noOffset, .time (DateTime.of?_eq_some_iff.mp dated).1.1⟩

/-- A number alone is a year or a day. -/
theorem names_of_single {role : Role} (noMonth : role ≠ .month)
    (named : ({ members := [⟨role, number⟩] } : Phrase).moment? false = some found) :
    found.offset = none ∧ NumeralNames number isWhole found.clock := by
  obtain ⟨noOffset, parts, resolved, dated⟩ := clock_of_moment? ⟨rfl, rfl, rfl⟩ named
  obtain ⟨⟨year, _, day⟩, time⟩ := DateTime.of?_eq_some_iff.mp dated
  have positive := found.clock.date.exists_day.1
  have bounded := found.clock.date.exists_day.2.1
  have dayFrom := found.clock.date.exists_day.2.2.1
  rw [DateTime.eq_atMidnight time]
  refine ⟨noOffset, .day ?_ ?_⟩
  · cases role with
    | month => exact absurd rfl noMonth
    | year =>
      cases resolved
      simp [hasRole, fullYear] at year
      omega
    | unnamed =>
      rw [resolveMembers?] at resolved
      split at resolved
      · omega
      · cases resolved
        simp at day
        omega
  · cases role with
    | month => exact absurd rfl noMonth
    | year =>
      cases resolved
      simp [hasRole, fullYear] at year
      omega
    | unnamed =>
      rw [resolveMembers?] at resolved
      split at resolved
      · cases resolved
        simp only [hasRole, fullYear, List.any_cons, List.any_nil, Option.map_some,
          Option.getD_some] at year
        by_cases long : 100 ≤ number
        · simp [long] at year
          omega
        · omega
      · omega

/-- Three numbers of two digits are a date of a year that is written with two digits. -/
theorem names_of_three {first second third : Nat} (whole : isWhole) (short : number < 1000000)
    (firstFits : first < 100) (thirdFits : third < 100)
    (named : ({ members := [⟨.unnamed, first⟩, ⟨.unnamed, second⟩, ⟨.unnamed, third⟩] } :
      Phrase).moment? false = some found) :
    found.offset = none ∧ NumeralNames number isWhole found.clock := by
  obtain ⟨noOffset, parts, resolved, dated⟩ := clock_of_moment? ⟨rfl, rfl, rfl⟩ named
  obtain ⟨⟨year, _, _⟩, _⟩ := DateTime.of?_eq_some_iff.mp dated
  have late : ∀ value < 100, 1976 ≤ fullYear value false := by decide
  have yearGiven : ∃ value, parts.year = some value ∧ value < 100 := by
    cases resolved
    unfold threeNumbers
    split
    · exact ⟨first, rfl, firstFits⟩
    · split
      · exact ⟨third, rfl, thirdFits⟩
      · exact ⟨third, rfl, thirdFits⟩
  obtain ⟨value, given, fits⟩ := yearGiven
  rw [given] at year
  refine ⟨noOffset, .short whole short ?_⟩
  rw [year]
  exact late value fits

/-- A year with a month and a day is their date. -/
theorem date_of_year {phrase : Phrase} {year month day : Nat}
    (plain : phrase.weekday = none ∧ phrase.zone = none ∧ phrase.offset = none)
    (members : phrase.members = [⟨.year, year⟩, ⟨.unnamed, month⟩, ⟨.unnamed, day⟩])
    (named : phrase.moment? false = some found) :
    found.offset = none ∧ found.clock.date.compact = (year * 100 + month) * 100 + day ∧
      found.clock.time.hour = phrase.hour.getD 0 ∧
      found.clock.time.minute = phrase.minute.getD 0 ∧
      found.clock.time.second = phrase.second.getD 0 ∧
      found.clock.time.micro = phrase.micro.getD 0 := by
  obtain ⟨noOffset, parts, resolved, dated⟩ := clock_of_moment? plain named
  rw [members] at resolved dated
  have parted : parts = ⟨some year, some month, some day⟩ := by
    simpa [resolveMembers?, threeNumbers] using resolved.symm
  obtain ⟨⟨sameYear, sameMonth, sameDay⟩, time⟩ := DateTime.of?_eq_some_iff.mp dated
  rw [parted] at sameYear sameMonth sameDay
  have sameYear : found.clock.date.year = year := by
    simpa [hasRole, fullYear] using sameYear
  refine ⟨noOffset, ?_, time⟩
  rw [Date.compact, sameYear, sameMonth, sameDay]
  rfl

/-! ### Tokens without a mark -/

variable {token : Token}

theorem addCount?_digits (phrase : Phrase) (some : token ≠ []) (areDigits : IsDigits token) :
    phrase.addCount? token =
      (addMember? phrase.members (if 2 < token.length then .year else .unnamed)
        (numberOf token)).bind fun members => Option.some { phrase with members := members } := by
  rw [addCount?, count?_digits some areDigits]
  rfl

/-- A part of a token of digits is counted as a member. -/
theorem addCount?_two {phrase : Phrase} (two : token.length = 2) (areDigits : IsDigits token) :
    phrase.addCount? token =
      some { phrase with members := phrase.members ++ [⟨.unnamed, numberOf token⟩] } := by
  have present : token ≠ [] := by
    rintro rfl
    cases two
  simp [addCount?_digits phrase present areDigits, two, addMember?]

theorem addCount?_four (four : token.length = 4) (areDigits : IsDigits token) :
    addCount? {} token = some { members := [⟨.year, numberOf token⟩] } := by
  have present : token ≠ [] := by
    rintro rfl
    cases four
  simp [addCount?_digits {} present areDigits, four, addMember?, hasRole]

/-- Some characters of a token, from a place on. -/
def part (token : Token) (start count : Nat) : Token := (token.drop start).take count

section

variable (areDigits : IsDigits token)

include areDigits

theorem isDigits_part (start count : Nat) : IsDigits (part token start count) :=
  fun _ present => areDigits _ (List.mem_of_mem_drop (List.mem_of_mem_take present))

theorem count?_part {start : Nat} (within : start + 2 ≤ token.length) :
    count? (part token start 2) = some (numberOf (part token start 2)) := by
  refine count?_digits ?_ (isDigits_part areDigits start 2)
  rw [← List.length_pos_iff, part, List.length_take, List.length_drop]
  omega

theorem addCount?_part (phrase : Phrase) {start : Nat} (within : start + 2 ≤ token.length) :
    phrase.addCount? (part token start 2) =
      some { phrase with
        members := phrase.members ++ [⟨.unnamed, numberOf (part token start 2)⟩] } := by
  refine addCount?_two ?_ (isDigits_part areDigits start 2)
  rw [part, List.length_take, List.length_drop]
  omega

theorem numberOf_part_lt (start : Nat) : numberOf (part token start 2) < 100 := by
  refine Nat.lt_of_lt_of_le (numberOf_lt (isDigits_part areDigits start 2)) ?_
  have most : (part token start 2).length ≤ 2 := List.length_take_le 2 _
  exact Nat.pow_le_pow_right (by decide) most

end

/-- What a part of a token and the characters after it stand for. -/
theorem numberOf_drop {start count left : Nat} (same : token.length = start + count + left) :
    numberOf (token.drop start) =
      numberOf (part token start count) * 10 ^ left + numberOf (token.drop (start + count)) := by
  have left : token.length - start - count = left := by omega
  rw [numberOf_split count (token.drop start), List.length_drop, List.drop_drop, part, left]

theorem numberOf_drop_two {start : Nat} (same : token.length = start + 2) :
    numberOf (token.drop start) = numberOf (part token start 2) := by
  rw [part, List.take_of_length_le]
  rw [List.length_drop]
  omega

/-- The first eight characters of a token stand for a year, a month and a day. -/
theorem numberOf_dated {left : Nat} (same : token.length = 8 + left) :
    numberOf token =
      ((numberOf (part token 0 4) * 100 + numberOf (part token 4 2)) * 100 +
        numberOf (part token 6 2)) * 10 ^ left + numberOf (token.drop 8) := by
  have year := @numberOf_drop token 0 4 (4 + left) (by omega)
  have month := @numberOf_drop token 4 2 (2 + left) (by omega)
  have day := @numberOf_drop token 6 2 left (by omega)
  rw [Nat.pow_add] at year month
  rw [List.drop_zero] at year
  rw [year, month, day]
  ring

/-- Six digits are three numbers of two digits. -/
theorem names_of_addSix? (areDigits : IsDigits token) (six : token.length = 6) (whole : isWhole)
    {phrase : Phrase} (added : addSix? {} token = some phrase)
    (named : phrase.moment? false = some found) :
    found.offset = none ∧ NumeralNames (numberOf token) isWhole found.clock := by
  have noPoint : token.contains '.' = false := by
    rw [← Bool.not_eq_true, List.contains_iff_mem]
    intro present
    exact absurd (areDigits '.' present) (by decide)
  have first : token.take 2 = part token 0 2 := rfl
  have second : (token.drop 2).take 2 = part token 2 2 := rfl
  have third : token.drop 4 = part token 4 2 := by
    rw [part, List.take_of_length_le]
    rw [List.length_drop]
    omega
  rw [addSix?, noPoint, first, second, third] at added
  simp only [List.isEmpty_nil, Bool.not_false, Bool.and_self, if_true, Option.bind_eq_bind,
    addCount?_part areDigits _ (by omega : 0 + 2 ≤ token.length), Option.bind_some,
    addCount?_part areDigits _ (by omega : 2 + 2 ≤ token.length),
    addCount?_part areDigits _ (by omega : 4 + 2 ≤ token.length), List.nil_append,
    List.cons_append] at added
  cases added
  refine names_of_three whole ?_ (numberOf_part_lt areDigits 0) (numberOf_part_lt areDigits 4) named
  have bound := numberOf_lt areDigits
  rwa [six] at bound

/-- Eight, twelve or fourteen digits are a date, and perhaps a time. -/
theorem names_of_addCompact? (areDigits : IsDigits token)
    (long : token.length = 8 ∨ token.length = 12 ∨ token.length = 14) (whole : isWhole)
    {phrase : Phrase} (added : addCompact? {} token = some phrase)
    (named : phrase.moment? false = some found) :
    found.offset = none ∧ NumeralNames (numberOf token) isWhole found.clock := by
  have year : addCount? {} (token.take 4) =
      some { members := [⟨.year, numberOf (part token 0 4)⟩] } :=
    addCount?_four (by rw [List.length_take]; omega) (isDigits_part areDigits 0 4)
  have month : (token.drop 4).take 2 = part token 4 2 := rfl
  have day : (token.drop 6).take 2 = part token 6 2 := rfl
  have hour : (token.drop 8).take 2 = part token 8 2 := rfl
  have minute : (token.drop 10).take 2 = part token 10 2 := rfl
  simp only [addCompact?, year, month, day, hour, minute, Option.bind_eq_bind, Option.bind_some,
    addCount?_part areDigits _ (by omega : 4 + 2 ≤ token.length),
    addCount?_part areDigits _ (by omega : 6 + 2 ≤ token.length), List.cons_append,
    List.nil_append] at added
  rcases long with eight | twelve | fourteen
  · rw [if_pos (by omega)] at added
    cases added
    obtain ⟨noOffset, date, time⟩ := date_of_year ⟨rfl, rfl, rfl⟩ rfl named
    rw [DateTime.eq_atMidnight time]
    refine ⟨noOffset, .compact whole ?_⟩
    have nothing : token.drop 8 = [] := List.drop_of_length_le (by omega)
    rw [date, @numberOf_dated token 0 eight, nothing, Nat.pow_zero, Nat.mul_one]
    rfl
  · rw [if_neg (by omega), count?_part areDigits (by omega), count?_part areDigits (by omega),
      Option.bind_some, Option.bind_some, if_pos (by omega)] at added
    cases added
    obtain ⟨noOffset, date, hours, minutes, seconds, micros⟩ :=
      date_of_year ⟨rfl, rfl, rfl⟩ rfl named
    refine ⟨noOffset, .toMinute whole ⟨seconds, micros⟩ ?_⟩
    rw [date, hours, minutes, @numberOf_dated token 4 twelve, @numberOf_drop token 8 2 2 twelve,
      numberOf_drop_two twelve]
    simp only [Option.getD_some]
    ring
  · have second : token.drop 12 = part token 12 2 := by
      rw [part, List.take_of_length_le]
      rw [List.length_drop]
      omega
    rw [if_neg (by omega), second, count?_part areDigits (by omega),
      count?_part areDigits (by omega), count?_part areDigits (by omega), Option.bind_some,
      Option.bind_some, if_neg (by omega), Option.bind_some] at added
    cases added
    obtain ⟨noOffset, date, hours, minutes, seconds, micros⟩ :=
      date_of_year ⟨rfl, rfl, rfl⟩ rfl named
    refine ⟨noOffset, .toSecond whole micros ?_⟩
    rw [date, hours, minutes, seconds, @numberOf_dated token 6 fourteen,
      @numberOf_drop token 8 2 4 fourteen, @numberOf_drop token 10 2 2 fourteen,
      numberOf_drop_two fourteen]
    simp only [Option.getD_some]
    ring

/-! ### Tokens with a point -/

/-- A token that is counted has no point. -/
theorem not_mem_of_count? {value : Nat} (counted : count? token = some value) : '.' ∉ token := by
  have all : ∀ {characters : List Char} {digits : List Nat},
      takeDigits digitValue? characters = (digits, []) → '.' ∉ characters := by
    intro characters
    induction characters with
    | nil => exact fun _ present => nomatch present
    | cons character rest inductionHypothesis =>
      intro digits taken
      rw [takeDigits] at taken
      split at taken
      · next digit isDigit =>
        have later : takeDigits digitValue? rest = ((takeDigits digitValue? rest).1, []) :=
          Prod.ext rfl (Prod.mk.inj taken).2
        rw [List.mem_cons, not_or]
        refine ⟨?_, inductionHypothesis later⟩
        rintro rfl
        have noDigit : digitValue? '.' = none := by decide
        rw [noDigit] at isDigit
        cases isDigit
      · cases taken
  unfold count? at counted
  split at counted
  · next whole read =>
    unfold figure? at read
    split at read
    · cases read
    · next taken => exact all taken
    · split at read
      · cases read
      · next ended => cases read; simp_all
      · cases read
    · cases read
  · cases counted

theorem not_mem_of_addCount? {phrase next : Phrase} (added : phrase.addCount? token = some next) :
    '.' ∉ token := by
  obtain ⟨value, counted, _⟩ := Option.bind_eq_some_iff.mp added
  exact not_mem_of_count? counted

theorem mem_part_or_mem_drop {character : Char} {start : Nat} (count : Nat)
    (present : character ∈ token.drop start) :
    character ∈ part token start count ∨ character ∈ token.drop (start + count) := by
  rw [← List.take_append_drop count (token.drop start), List.drop_drop, List.mem_append] at present
  exact present

/-- Characters with a point among them are no compact date. -/
theorem not_mem_of_addCompact? {phrase next : Phrase}
    (added : phrase.addCompact? token = some next) : '.' ∉ token := by
  obtain ⟨withYear, year, onMonth⟩ := Option.bind_eq_some_iff.mp added
  obtain ⟨withMonth, month, onDay⟩ := Option.bind_eq_some_iff.mp onMonth
  obtain ⟨withDay, day, onTime⟩ := Option.bind_eq_some_iff.mp onDay
  intro present
  have afterYear := (@mem_part_or_mem_drop token '.' 0 4 present).resolve_left
    (not_mem_of_addCount? year)
  have afterMonth := (mem_part_or_mem_drop 2 afterYear).resolve_left (not_mem_of_addCount? month)
  have afterDay := (mem_part_or_mem_drop 2 afterMonth).resolve_left (not_mem_of_addCount? day)
  split at onTime
  · next short =>
    rw [List.drop_of_length_le (by omega)] at afterDay
    cases afterDay
  · obtain ⟨hour, hourRead, onMinute⟩ := Option.bind_eq_some_iff.mp onTime
    obtain ⟨minute, minuteRead, onSecond⟩ := Option.bind_eq_some_iff.mp onMinute
    have afterHour := (mem_part_or_mem_drop 2 afterDay).resolve_left (not_mem_of_count? hourRead)
    have afterMinute := (mem_part_or_mem_drop 2 afterHour).resolve_left
      (not_mem_of_count? minuteRead)
    dsimp only at onSecond
    split at onSecond
    · next short =>
      rw [List.drop_of_length_le (by omega)] at afterMinute
      cases afterMinute
    · obtain ⟨second, secondRead, _⟩ := Option.bind_eq_some_iff.mp onSecond
      exact not_mem_of_count? secondRead afterMinute

/-- Six digits before a point are a time. -/
theorem names_of_addSix?_point (point : '.' ∈ token) {phrase : Phrase}
    (added : addSix? {} token = some phrase) (named : phrase.moment? false = some found) :
    found.offset = none ∧ NumeralNames number isWhole found.clock := by
  have contains : token.contains '.' = true := List.contains_iff_mem.mpr point
  rw [addSix?, contains, if_neg (by decide)] at added
  obtain ⟨hour, _, onMinute⟩ := Option.bind_eq_some_iff.mp added
  obtain ⟨minute, _, onSecond⟩ := Option.bind_eq_some_iff.mp onMinute
  obtain ⟨figure, _, same⟩ := Option.bind_eq_some_iff.mp onSecond
  cases same
  exact names_of_time ⟨rfl, rfl, rfl⟩ rfl named

/-! ### The number that begins a phrase -/

/-- A member alone is a year or a day. -/
theorem names_of_addMember? {role : Role} {members : List Member} (noMonth : role ≠ .month)
    (added : addMember? [] role number = some members)
    (named : ({ members := members } : Phrase).moment? false = some found) :
    found.offset = none ∧ NumeralNames number isWhole found.clock := by
  have alone : members = [⟨role, number⟩] := by simpa [addMember?, hasRole] using added.symm
  rw [alone] at named
  exact names_of_single noMonth named

theorem names_of_addFigure? {figure : Figure} {phrase : Phrase}
    (added : addFigure? {} figure = some phrase) (named : phrase.moment? false = some found) :
    found.offset = none ∧ NumeralNames figure.size isWhole found.clock := by
  obtain ⟨members, membersAdded, same⟩ := Option.bind_eq_some_iff.mp added
  cases same
  refine names_of_addMember? ?_ membersAdded named
  split <;> exact Role.noConfusion

theorem names_of_addCount? (some : token ≠ []) (areDigits : IsDigits token) {phrase : Phrase}
    (added : addCount? {} token = Option.some phrase)
    (named : phrase.moment? false = Option.some found) :
    found.offset = none ∧ NumeralNames (numberOf token) isWhole found.clock := by
  rw [addCount?_digits {} some areDigits] at added
  obtain ⟨members, membersAdded, same⟩ := Option.bind_eq_some_iff.mp added
  cases same
  refine names_of_addMember? ?_ membersAdded named
  split <;> exact Role.noConfusion

/-- A number at the start of a phrase, with nothing or a point behind it: one of six digits, a
compact date, or a member. -/
theorem addNumber?_first {figure : Figure} {after : List Token}
    (ends : after = [] ∨ after = [['.']]) :
    addNumber? {} [] token figure after =
      if token.length = 6 ∨ (6 < token.length ∧ token.idxOf '.' = 6) then
        (addSix? {} token).map fun added => (added, 0)
      else if token.length = 8 ∨ token.length = 12 ∨ token.length = 14 then
        (addCompact? {} token).map fun added => (added, 0)
      else if after = [] then (addFigure? {} figure).map fun added => (added, 1)
      else (addCount? {} token).map fun added => (added, 1) := by
  have noTime : isCompactTime {} token after = false := rfl
  unfold addNumber?
  rw [noTime, if_neg Bool.false_ne_true]
  rcases ends with rfl | rfl
  · rfl
  · have noUnit : unit? [] [['.']] = none := by decide
    have separates : isMark '-' ['.'] = true ∨ isMark '/' ['.'] = true ∨ isMark '.' ['.'] = true :=
      .inr (.inr rfl)
    have noColon : ¬ (isMark ':' ['.'] = true ∧ ([] : List Token) ≠ []) := fun both => both.2 rfl
    have separated : addSeparated? {} token ['.'] [] =
        (addCount? {} token).map fun added => (added, 1) := by
      rw [addSeparated?]
      cases addCount? {} token <;> rfl
    rw [noUnit]
    dsimp only
    rw [if_neg noColon, if_pos separates, separated, if_neg (List.cons_ne_nil _ _)]

/-- A number without a point at the start of a phrase. -/
theorem names_of_addNumber? {figure : Figure} {after : List Token} {phrase : Phrase} {count : Nat}
    (some : token ≠ []) (areDigits : IsDigits token) (size : figure.size = numberOf token)
    (ends : after = [] ∨ after = [['.']]) (whole : isWhole)
    (added : addNumber? {} [] token figure after = Option.some (phrase, count))
    (named : phrase.moment? false = Option.some found) :
    found.offset = none ∧ NumeralNames (numberOf token) isWhole found.clock := by
  have absent : '.' ∉ token := fun present => absurd (areDigits '.' present) (by decide)
  rw [addNumber?_first ends] at added
  split at added
  · next six =>
    obtain ⟨_, sixAdded, same⟩ := Option.map_eq_some_iff.mp added
    cases same
    rw [List.idxOf_eq_length absent] at six
    exact names_of_addSix? areDigits (by omega) whole sixAdded named
  · split at added
    · next long =>
      obtain ⟨_, compactAdded, same⟩ := Option.map_eq_some_iff.mp added
      cases same
      exact names_of_addCompact? areDigits long whole compactAdded named
    · split at added
      · obtain ⟨_, figureAdded, same⟩ := Option.map_eq_some_iff.mp added
        cases same
        rw [← size]
        exact names_of_addFigure? figureAdded named
      · obtain ⟨_, countAdded, same⟩ := Option.map_eq_some_iff.mp added
        cases same
        exact names_of_addCount? some areDigits countAdded named

/-- A number with a point at the start of a phrase is a time or a member. -/
theorem names_of_addNumber?_point {figure : Figure} {phrase : Phrase} {count : Nat}
    (point : '.' ∈ token) (added : addNumber? {} [] token figure [] = some (phrase, count))
    (named : phrase.moment? false = some found) :
    found.offset = none ∧ NumeralNames figure.size isWhole found.clock := by
  rw [addNumber?_first (.inl rfl)] at added
  split at added
  · obtain ⟨_, sixAdded, same⟩ := Option.map_eq_some_iff.mp added
    cases same
    exact names_of_addSix?_point point sixAdded named
  · split at added
    · obtain ⟨_, compactAdded, _⟩ := Option.map_eq_some_iff.mp added
      exact absurd point (not_mem_of_addCompact? compactAdded)
    · rw [if_pos rfl] at added
      obtain ⟨_, figureAdded, same⟩ := Option.map_eq_some_iff.mp added
      cases same
      exact names_of_addFigure? figureAdded named

/-- A phrase that begins with a number, and has nothing or a point behind it, is what the number
makes it. -/
theorem exists_of_readFrom? {figure : Figure} {after : List Token} {phrase : Phrase}
    (figureRead : figure? token = some figure) (ends : after = [] ∨ after = [['.']])
    (read : readFrom? (after.length + 1) {} [] (token :: after) = some phrase) :
    ∃ count, addNumber? {} [] token figure after = some (phrase, count) := by
  rw [readFrom?_cons, step?, figureRead] at read
  obtain ⟨⟨next, count, rest⟩, step, onRest⟩ := Option.bind_eq_some_iff.mp read
  obtain ⟨⟨added, counted⟩, numberAdded, same⟩ := Option.map_eq_some_iff.mp step
  cases same
  dsimp only at onRest
  refine ⟨count, numberAdded.trans ?_⟩
  have passed (before : List Token) : step? next before ['.'] [] = some (next, 0, []) := by
    have zone : next.couldBeZone ['.'] = false := by
      have noZone : (['.'] : Token).all Char.isUpper = false ∧
          universalNames.contains (String.ofList ['.']) = false := by decide
      rw [couldBeZone, noZone.1, noZone.2, Bool.or_false, Bool.and_false]
    have alone : IsMarkAlone ['.'] := by decide
    have joins : isJoining ['.'] = true := by decide
    have noSign : (isMark '+' ['.'] || isMark '-' ['.']) = false := by decide
    obtain ⟨noFigure, noWeekday, noMonth, noHalf⟩ := alone
    simp only [step?, noFigure, noWeekday, noMonth, noHalf, zone, noSign, joins, Bool.and_false,
      Bool.false_eq_true, if_false, if_true]
  rcases ends with rfl | rfl
  · rw [List.drop_nil] at onRest
    cases (readFrom?_nil _ _ _).symm.trans onRest
    rfl
  · cases count with
    | zero =>
      rw [List.drop_zero, List.length_singleton, readFrom?_cons, passed, Option.bind_some] at onRest
      cases (readFrom?_nil _ _ _).symm.trans onRest
      rfl
    | succ count =>
      rw [List.drop_succ_cons, List.drop_nil] at onRest
      cases (readFrom?_nil _ _ _).symm.trans onRest
      rfl

end Phrase

/-! ## The tokens of a numeral -/

theorem splitMarks_point {digits : List Char} (areDigits : IsDigits digits) (current : List Char) :
    splitMarks current (digits ++ ['.']) = [current.reverse ++ digits, ['.'], []] := by
  induction digits generalizing current with
  | nil =>
    rw [List.append_nil]
    rfl
  | cons digit others inductionHypothesis =>
    obtain ⟨isDigit, areOthers⟩ := List.forall_mem_cons.mp areDigits
    have noMark : ¬ (digit = '.' ∨ digit = ',') :=
      not_or.mpr ⟨ne_of_isDigit isDigit rfl, ne_of_isDigit isDigit rfl⟩
    rw [List.cons_append, splitMarks, if_neg noMark, inductionHypothesis areOthers,
      List.reverse_cons, List.append_assoc, List.singleton_append]

/-- A point at the end of a number is a token of its own. -/
theorem splitTokens_point {digits : List Char} (some : digits ≠ []) (areDigits : IsDigits digits) :
    splitTokens none (digits ++ ['.']) = [digits, ['.']] := by
  have goesOn : TokenKind.number.next? digits.reverse '.' = Option.some .dottedNumber := by
    have noDigit : isDigitCharacter '.' = false := by decide
    simp [TokenKind.next?, noDigit]
  have finished : finishToken .dottedNumber false ('.' :: digits.reverse) = [digits, ['.']] := by
    rw [finishToken, List.reverse_cons, List.reverse_reverse, splitMarks_point areDigits]
    simp [some]
  rw [splitTokens_digits_append some areDigits, splitTokens_some_cons, goesOn]
  exact finished

/-- A numeral that is read as a phrase names what a numeral can name. -/
theorem names_of_readPhrase? {whole tail : List Char} {found : Moment}
    (numeral : IsNumeral whole tail) (read : readPhrase? false (whole ++ tail) = some found) :
    found.offset = none ∧ NumeralNames (numberOf whole) (tail = [] ∨ tail = ['.']) found.clock := by
  have known : ∀ character ∈ whole ++ tail, character.toNat ≠ 0 := by
    refine numeral.forall_mem (fun digit isDigit => ?_) (by decide)
    have bounds := toNat_of_isDigit isDigit
    omega
  obtain ⟨present, areDigits, ending⟩ := numeral
  have figureRead := figure?_digits present areDigits
  obtain ⟨phrase, phraseRead, named⟩ := Option.bind_eq_some_iff.mp read
  rw [tokens_of_forall known] at phraseRead
  rcases ending with rfl | ⟨places, arePlaces, rfl⟩
  · rw [splitTokens_digits present areDigits stopsNumber_nil] at phraseRead
    obtain ⟨count, added⟩ := Phrase.exists_of_readFrom? figureRead (.inl rfl) phraseRead
    exact Phrase.names_of_addNumber? present areDigits rfl (.inl rfl) (.inl rfl) added named
  · by_cases more : places = []
    · subst more
      rw [splitTokens_point present areDigits] at phraseRead
      obtain ⟨count, added⟩ := Phrase.exists_of_readFrom? figureRead (.inr rfl) phraseRead
      exact Phrase.names_of_addNumber? present areDigits rfl (.inr rfl) (.inr rfl) added named
    · have one := splitTokens_fraction present areDigits (.inl rfl) more arePlaces stopsNumber_nil
      rw [List.append_nil] at one
      rw [one] at phraseRead
      obtain ⟨count, added⟩ := Phrase.exists_of_readFrom?
        (figure?_fraction present areDigits more arePlaces) (.inl rfl) phraseRead
      exact Phrase.names_of_addNumber?_point (by simp) added named

end DateText

end SheetIntake.Calendar
