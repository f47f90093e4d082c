import SheetIntake.Calendar.DateText
import SheetIntake.Proofs.Calendar.StrictForm

/-!
# Strict texts read in the standard form

The reader of cells tries the standard form first. It does not take all strict texts for standard
ones, but those that it takes have the fields of the moment that they spell. The parts are followed
in the order of the text, each with what comes after it left over.
-/

namespace SheetIntake.Calendar

open SheetIntake.Decimal SheetIntake.Text

namespace DateText

/-- The fields of a date. -/
def Fields.ofDate (date : Date) : Fields :=
  { year := date.year, month := date.month, day := date.day }

/-- The fields of a moment, with more digits of its fraction. -/
def Fields.ofMoment (moment : Moment) (finer : List Nat) : Fields where
  year := moment.clock.date.year
  month := moment.clock.date.month
  day := moment.clock.date.day
  hour := moment.clock.time.hour
  minute := moment.clock.time.minute
  second := moment.clock.time.second
  micro := moment.clock.time.micro
  finer := finer
  offset := moment.offset

/-- The fields of a moment name the moment, if all digits of its fraction can be counted. -/
theorem Fields.reading_ofMoment (moment : Moment) (finer : List Nat) :
    (Fields.ofMoment moment finer).reading =
      if moment.clock.IsCountable finer then .moment moment else .notADate := by
  have year : moment.clock.date.year ≠ 0 := Nat.ne_of_gt moment.clock.date.exists_day.1
  rw [Fields.reading, Fields.ofMoment, if_neg year]
  simp [DateTime.of?]

/-- The words for the present have a letter in common. -/
theorem not_mem_presentWords {characters : List Char}
    (noLetter : ∀ character ∈ characters, character ≠ 'o') : characters ∉ presentWords := by
  intro word
  have letters : ∀ present ∈ presentWords, 'o' ∈ present := by decide
  exact noLetter 'o' (letters characters word) rfl

theorem not_mem_presentWords_of_spells {moment : Moment} {characters : List Char}
    (spells : StrictText.Spells moment characters) : characters ∉ presentWords :=
  not_mem_presentWords (StrictText.forall_of_spells (fun _ isDigit => ne_of_isDigit isDigit rfl)
    (List.all_iff_forall_prop.mp (by decide)) spells)

/-! ## One part after the other -/

theorem takeField?_fixedDigits {value : Nat} (fits : value < 100) (rest : List Char) :
    takeField? true (fixedDigits 2 value ++ rest) = some (value, rest) :=
  readOneOrTwo?_fixedDigits fits rest

theorem startsWithDigit_fixedDigits (width value : Nat) (rest : List Char) :
    startsWithDigit (fixedDigits (width + 1) value ++ rest) = true := by
  have small : value / 10 ^ width % 10 < 10 := Nat.mod_lt _ (by decide)
  rw [fixedDigits_succ, List.cons_append, startsWithDigit, List.head?_cons, Option.any_some,
    asciiDigitValue?_digitCharacter small]
  rfl

/-- A text that begins with a date is read from its time of day on. -/
theorem readFields?_isoCharacters (date : Date) (rest : List Char) :
    readFields? (date.isoCharacters ++ rest) = readTime? (.ofDate date) rest := by
  obtain ⟨_, yearBound, dayFrom, dayTo⟩ := date.exists_day
  have monthFrom := one_le_month_of_day date.exists_day
  have monthTo := month_le_of_day date.exists_day
  have yearFits : date.year < 10 ^ 4 := by omega
  have monthFits : date.month < 100 := by omega
  have dayFits : date.day < 100 := by
    have bound := daysInMonth_le date.year date.month
    omega
  have isMonth : ¬ (date.month < 1 ∨ 12 < date.month) := by omega
  have dayThere : dayExists date.year date.month date.day = true := by
    rw [dayExists, Bool.and_eq_true, decide_eq_true_eq, decide_eq_true_eq]
    exact ⟨dayFrom, dayTo⟩
  have separates : isDateSeparator '-' = true := by decide
  simp only [readFields?, Date.isoCharacters, List.append_assoc, List.cons_append,
    readDigits?_fixedDigits yearFits, Option.bind_eq_bind, Option.bind_some, separates, if_true,
    readSeparatedMonth?, takeField?_fixedDigits monthFits, if_neg isMonth, readDay?,
    takeField?_fixedDigits dayFits, dayThere]
  rfl

/-- After a separator that is admitted, the hours are read and the minutes follow. -/
theorem readTime?_clock (fields : Fields) {hour : Nat} (inDay : hour < 24) (minute : Nat)
    {separator : Char} (rest : List Char) :
    readTime? fields (separator :: (fixedDigits 2 hour ++ ':' :: (fixedDigits 2 minute ++ rest))) =
      if separator = 'T' ∨ separator = ' ' then
        readMinutes? true { fields with hour := hour } (fixedDigits 2 minute ++ rest)
      else none := by
  have hourFits : hour < 100 := by omega
  have early : ¬ 24 ≤ hour := by omega
  rw [readTime?, readHours?, readOneOrTwo?_fixedDigits hourFits]
  · simp [early, startsWithDigit_fixedDigits]
  · intro empty
    simpa using congrArg List.length empty

/-- Minutes after which no colon stands come last. -/
theorem readMinutes?_ending (fields : Fields) {minute : Nat} (inHour : minute < 60)
    {rest : List Char} (stops : rest.head? ≠ some ':') :
    readMinutes? true fields (fixedDigits 2 minute ++ rest) =
      finish? { fields with minute := minute } rest := by
  have minuteFits : minute < 100 := by omega
  have early : ¬ 60 ≤ minute := by omega
  simp only [readMinutes?, takeField?_fixedDigits minuteFits, Option.bind_eq_bind,
    Option.bind_some, if_neg early, if_true]
  split
  · exact absurd rfl stops
  · rfl

theorem readMinutes?_seconds (fields : Fields) {minute : Nat} (inHour : minute < 60)
    (second : Nat) (rest : List Char) :
    readMinutes? true fields (fixedDigits 2 minute ++ ':' :: (fixedDigits 2 second ++ rest)) =
      readSeconds? true { fields with minute := minute } (fixedDigits 2 second ++ rest) := by
  have minuteFits : minute < 100 := by omega
  have early : ¬ 60 ≤ minute := by omega
  simp only [readMinutes?, takeField?_fixedDigits minuteFits, Option.bind_eq_bind,
    Option.bind_some, if_neg early, if_true, startsWithDigit_fixedDigits]

/-- Seconds after which no point stands come last. -/
theorem readSeconds?_ending (fields : Fields) {second : Nat} (inMinute : second < 60)
    {rest : List Char} (stops : rest.head? ≠ some '.') :
    readSeconds? true fields (fixedDigits 2 second ++ rest) =
      finish? { fields with second := second } rest := by
  have secondFits : second < 100 := by omega
  have early : ¬ 60 ≤ second := by omega
  simp only [readSeconds?, takeField?_fixedDigits secondFits, Option.bind_eq_bind,
    Option.bind_some, if_neg early]
  split
  · exact absurd rfl stops
  · rfl

/-- A fraction of a second is read as its first six digits. -/
theorem readSeconds?_fraction (fields : Fields) {second : Nat} (inMinute : second < 60)
    {digits rest : List Char} (areDigits : IsDigits digits)
    (stops : ∀ next, rest.head? = some next → next.isDigit = false) :
    readSeconds? true fields (fixedDigits 2 second ++ '.' :: (digits ++ rest)) =
      finish? { fields with
        second := second
        micro := StrictText.microsOf digits
        finer := (digitsOf digits).drop 6 } rest := by
  have secondFits : second < 100 := by omega
  have early : ¬ 60 ≤ second := by omega
  have micros : takeMicros (digits ++ rest) =
      (StrictText.microsOf digits, (digitsOf digits).drop 6, rest) := by
    rw [takeMicros, takeDigits_ascii areDigits stops, StrictText.microsOf_eq]
  simp only [readSeconds?, takeField?_fixedDigits secondFits, Option.bind_eq_bind,
    Option.bind_some, if_neg early, micros]

/-! ## Offsets -/

/-- The size of an offset is read as hours and minutes. -/
theorem read_of_spellsSize {hours minutes : Nat} {characters : List Char} (hoursFit : hours < 24)
    (minutesFit : minutes < 60) (spells : StrictText.SpellsSize hours minutes characters) :
    ∃ after, readOneOrTwo? characters = some (hours, after) ∧
      takeOffsetMinutes? after = some (minutes, []) := by
  have hoursBound : hours < 100 := by omega
  have minutesBound : minutes < 100 := by omega
  have read := readOneOrTwo?_fixedDigits minutesBound []
  rw [List.append_nil] at read
  cases spells with
  | joined =>
    refine ⟨_, readOneOrTwo?_fixedDigits hoursBound _, ?_⟩
    have first : (fixedDigits 2 minutes).head? ≠ some ':' := by
      intro colon
      have isDigit : ':'.isDigit = true := isDigit_of_mem_fixedDigits (List.mem_of_head? colon)
      exact absurd isDigit (by decide)
    unfold takeOffsetMinutes?
    split
    · next empty => simpa using congrArg List.length empty
    · next rest shape => rw [shape] at first; exact absurd rfl first
    · exact read
  | parted => exact ⟨_, readOneOrTwo?_fixedDigits hoursBound _, read⟩

/-- A sign with a size is read as the offset that it spells. -/
theorem readOffset?_signed {sign : Char} {size : List Char} {hours minutes : Nat} {offset : Offset}
    (isSign : sign = '+' ∨ sign = '-') (hoursFit : hours < 24) (minutesFit : minutes < 60)
    (signs : StrictText.Signs (hours * 60 + minutes) sign offset.minutes)
    (spells : StrictText.SpellsSize hours minutes size) :
    readOffset? (sign :: size) = some (some offset) := by
  obtain ⟨after, hoursRead, minutesRead⟩ := read_of_spellsSize hoursFit minutesFit spells
  have noGap : isGap sign = false := by rcases isSign with rfl | rfl <;> decide
  have noLetter : sign ≠ 'Z' := by rcases isSign with rfl | rfl <;> decide
  have named : Offset.of? (if sign = '-' then -Int.ofNat (hours * 60 + minutes)
      else Int.ofNat (hours * 60 + minutes)) = some offset := by
    rw [Offset.of?_eq_some_iff]
    generalize offset.minutes = total at signs
    cases signs with
    | ahead => rfl
    | behind minus =>
      have hyphen : sign = '-' := by
        rcases isSign with rfl | rfl
        · exact absurd minus (by decide)
        · rfl
      rw [if_pos hyphen]
      rfl
  have within : hours < 24 ∧ minutes < 60 := ⟨hoursFit, minutesFit⟩
  simp only [readOffset?, List.dropWhile_cons, noGap, Bool.false_eq_true, if_false, if_neg noLetter,
    if_pos isSign, hoursRead, minutesRead, Option.bind_eq_bind, Option.bind_some, if_pos within,
    named]
  rfl

/-- What begins with no sign, letter or blank that an offset begins with is no offset. -/
theorem readOffset?_other {mark : Char} {rest : List Char} (noGap : isGap mark = false)
    (noLetter : mark ≠ 'Z') (noSign : ¬ (mark = '+' ∨ mark = '-')) :
    readOffset? (mark :: rest) = none := by
  have stays : (mark :: rest).dropWhile isGap = mark :: rest :=
    List.dropWhile_cons_of_neg (Bool.not_eq_true _ ▸ noGap)
  unfold readOffset?
  rw [stays]
  dsimp only
  rw [if_neg noLetter, if_neg noSign, Option.bind_eq_bind, Option.bind_some]
  dsimp only
  rw [stays, List.isEmpty_cons, if_neg Bool.false_ne_true]

/-- An offset that is read is the one that is spelled. -/
theorem eq_of_readOffset? {offset found : Option Offset} {characters : List Char}
    (spells : StrictText.SpellsOffset offset characters)
    (read : readOffset? characters = some found) : found = offset := by
  cases spells with
  | absent =>
    cases read
    rfl
  | universal isMark =>
    rcases isMark with rfl | rfl
    · cases read
      rfl
    · rw [readOffset?_other (by decide) (by decide) (by decide)] at read
      cases read
  | @signed sign hours minutes offset size hoursFit minutesFit signs spells =>
    by_cases isSign : sign = '+' ∨ sign = '-'
    · rw [readOffset?_signed isSign hoursFit minutesFit signs spells] at read
      exact (Option.some.inj read).symm
    · have typographic : sign = StrictText.minusSign := by
        generalize offset.minutes = total at signs
        cases signs with
        | ahead => exact absurd (.inl rfl) isSign
        | behind minus => exact minus.resolve_left fun hyphen => isSign (.inr hyphen)
      rw [typographic, readOffset?_other (by decide) (by decide) (by decide)] at read
      cases read

/-- The characters with which an offset begins are no digits, points or colons. -/
theorem head_of_spellsOffset {offset : Option Offset} {characters : List Char} {next : Char}
    (spells : StrictText.SpellsOffset offset characters)
    (first : characters.head? = some next) :
    next.isDigit = false ∧ next ≠ ':' ∧ next ≠ '.' ∧ next ≠ ',' := by
  cases spells with
  | absent => cases first
  | universal isMark =>
    cases first
    rcases isMark with rfl | rfl <;> decide
  | @signed sign _ _ offset _ _ _ signs _ =>
    cases first
    generalize offset.minutes = total at signs
    cases signs with
    | ahead => decide
    | behind minus => rcases minus with rfl | rfl <;> decide

/-! ## Whole texts -/

/-- What is read after the hours is what is spelled after them, apart from the digits after the
sixth of a fraction. -/
theorem eq_of_readMinutes? {fields found : Fields} {minute second micro : Nat}
    {offset : Option Offset} {seconds ending : List Char} (inHour : minute < 60)
    (inMinute : second < 60) (whole : fields.second = 0 ∧ fields.micro = 0)
    (spellsSeconds : StrictText.SpellsSeconds second micro seconds)
    (spellsOffset : StrictText.SpellsOffset offset ending)
    (read : readMinutes? true fields (fixedDigits 2 minute ++ (seconds ++ ending)) = some found) :
    found = { fields with
      minute := minute, second := second, micro := micro, finer := found.finer
      offset := offset } := by
  have stops (next : Char) (first : ending.head? = some next) :=
    head_of_spellsOffset spellsOffset first
  have ends : ∀ start : Fields, finish? start ending = some found →
      found = { start with offset := offset } := by
    intro start finished
    obtain ⟨ended, endRead, rfl⟩ := Option.map_eq_some_iff.mp finished
    rw [eq_of_readOffset? spellsOffset endRead]
  cases spellsSeconds with
  | absent =>
    rw [List.nil_append, readMinutes?_ending _ inHour fun colon => (stops _ colon).2.1 rfl] at read
    rw [ends _ read]
    simp [whole]
  | whole =>
    rw [List.cons_append, readMinutes?_seconds _ inHour,
      readSeconds?_ending _ inMinute fun point => (stops _ point).2.2.1 rfl] at read
    rw [ends _ read]
    simp [whole]
  | @parted _ mark digits isMark some areDigits =>
    rw [List.append_assoc, List.cons_append, List.cons_append, readMinutes?_seconds _ inHour]
      at read
    rcases isMark with rfl | rfl
    · rw [readSeconds?_fraction _ inMinute areDigits fun next first => (stops next first).1] at read
      rw [ends _ read]
    · have noOffset : readOffset? (',' :: (digits ++ ending)) = none :=
        readOffset?_other (by decide) (by decide) (by decide)
      rw [readSeconds?_ending _ inMinute (by simp), finish?, noOffset] at read
      cases read

/-- A strict text that is taken for a standard one has the fields of the moment that it spells, and
perhaps more digits of a fraction. -/
theorem eq_ofMoment_of_readFields? {moment : Moment} {characters : List Char} {fields : Fields}
    (spells : StrictText.Spells moment characters) (read : readFields? characters = some fields) :
    fields = .ofMoment moment fields.finer := by
  cases spells with
  | day date =>
    rw [← List.append_nil date.isoCharacters, readFields?_isoCharacters] at read
    cases read
    rfl
  | time date time separates spellsSeconds spellsOffset =>
    obtain ⟨inDay, inHour, inMinute, _⟩ := time.in_range
    rw [readFields?_isoCharacters, readTime?_clock _ inDay] at read
    split at read
    · have same := eq_of_readMinutes? inHour inMinute ⟨rfl, rfl⟩ spellsSeconds spellsOffset read
      exact same
    · cases read

/-- The ISO text of a date-time is a standard text. -/
theorem readFields?_charactersWith (clock : DateTime) :
    readFields? (clock.charactersWith 'T') = some (.ofMoment (.naive clock) []) := by
  obtain ⟨date, time⟩ := clock
  obtain ⟨inDay, inHour, inMinute, inSecond⟩ := time.in_range
  simp only [DateTime.charactersWith, TimeOfDay.isoCharacters, List.append_assoc, List.cons_append]
  rw [readFields?_isoCharacters, readTime?_clock _ inDay, if_pos (.inl rfl),
    readMinutes?_seconds _ inHour]
  by_cases whole : time.micro = 0
  · rw [fractionCharacters, if_pos whole, readSeconds?_ending _ inMinute (by simp)]
    simp only [finish?, readOffset?, List.dropWhile_nil, Option.bind_eq_bind, Option.bind_some,
      List.isEmpty_nil, if_true, Option.map_some, Fields.ofMoment, Moment.naive, whole]
    rfl
  · have micros : StrictText.microsOf (fixedDigits 6 time.micro) = time.micro := by
      have six : (fixedDigits 6 time.micro).take 6 = fixedDigits 6 time.micro :=
        List.take_of_length_le (by rw [length_fixedDigits])
      rw [StrictText.microsOf, six, numberOf_fixedDigits inSecond, length_fixedDigits,
        Nat.sub_self, Nat.pow_zero, Nat.mul_one]
    rw [fractionCharacters, if_neg whole, ← List.append_nil (fixedDigits 6 time.micro),
      readSeconds?_fraction _ inMinute (isDigits_fixedDigits 6 _) (by simp), micros]
    rfl

end DateText

/-- The ISO text of a date-time is read as the date-time. -/
theorem readDateText_isoText (present clock : DateTime) :
    readDateText present (Moment.naive clock).isoText = .moment (.naive clock) := by
  have spells := StrictText.spells_of_readMoment? (StrictText.readMoment?_charactersWith clock)
  have characters : (Moment.naive clock).isoText.toList = clock.charactersWith 'T' := by
    rw [Moment.isoText, String.toList_ofList, Moment.charactersWith, Moment.naive]
    exact List.append_nil _
  rw [readDateText, characters, StrictText.strip_of_spells spells]
  rw [DateText.read, if_neg (DateText.not_mem_presentWords_of_spells spells),
    DateText.readFields?_charactersWith]
  · exact (DateText.Fields.reading_ofMoment _ []).trans (if_pos (.inl rfl))
  · simp [DateTime.charactersWith]

end SheetIntake.Calendar
