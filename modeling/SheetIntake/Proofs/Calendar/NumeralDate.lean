import SheetIntake.Proofs.Calendar.NumeralPhrase

/-!
# Numerals read as dates

The reader of cells takes some numerals for dates: years, years with a month behind the point, and
six, eight, twelve or fourteen digits without a mark between them. All that it can make of a numeral
is listed here; a numeral with a minus sign it never takes for a date.
-/

namespace SheetIntake.Calendar

open SheetIntake.Decimal SheetIntake.Text

namespace DateText

variable {whole tail : List Char}

/-! ## Numerals in the standard form -/

/-- A reading of fields has the clock of these fields. -/
theorem clock_of_reading {fields : Fields} {found : Moment}
    (read : fields.reading = .moment found) :
    DateTime.of? fields.year fields.month fields.day fields.hour fields.minute fields.second
      fields.micro = some found.clock ∧ found.offset = fields.offset := by
  unfold Fields.reading at read
  split at read
  · split at read <;> cases read
  · split at read
    · next clock named =>
      split at read
      · cases read
        exact ⟨named, rfl⟩
      · cases read
    · cases read

/-- A field of digits in front of a numeral is taken from the digits before its point. -/
theorem exists_of_readDigits? {width value : Nat} {rest : List Char}
    (stops : ∀ next, tail.head? = some next → next.isDigit = false)
    (read : readDigits? (width + 1) (whole ++ tail) = some (value, rest)) :
    ∃ more, whole = fixedDigits (width + 1) value ++ more ∧ rest = more ++ tail ∧
      value < 10 ^ (width + 1) := by
  obtain ⟨fits, same⟩ := readDigits?_eq_some_iff.mp read
  obtain ⟨more, shape, left⟩ := exists_more_of_append (isDigits_fixedDigits _ _) stops same
  exact ⟨more, shape, left, fits⟩

theorem exists_of_readOneOrTwo? {value : Nat} {rest : List Char}
    (stops : ∀ next, tail.head? = some next → next.isDigit = false)
    (read : readOneOrTwo? (whole ++ tail) = some (value, rest)) :
    ∃ front more, whole = front ++ more ∧ rest = more ++ tail := by
  unfold readOneOrTwo? at read
  split at read
  · next two =>
    cases read
    obtain ⟨more, shape, left, _⟩ := exists_of_readDigits? stops two
    exact ⟨_, more, shape, left⟩
  · obtain ⟨more, shape, left, _⟩ := exists_of_readDigits? stops read
    exact ⟨_, more, shape, left⟩

/-- Behind a point only a month can stand among digits. -/
theorem exists_of_readSeparatedMonth? {fields found : Fields} {places : List Char}
    (arePlaces : IsDigits places) (read : readSeparatedMonth? '.' fields places = some found) :
    ∃ month, found = { fields with month := month } := by
  obtain ⟨⟨month, afterMonth⟩, monthRead, onDay⟩ := Option.bind_eq_some_iff.mp read
  rw [takeField?, if_pos rfl, ← List.append_nil places] at monthRead
  obtain ⟨front, left, shape, rest⟩ := exists_of_readOneOrTwo? (by simp) monthRead
  refine ⟨month, ?_⟩
  dsimp only at onDay
  split at onDay
  · cases onDay
  · split at onDay
    · cases onDay
      rfl
    · next mark day =>
      have isDigit : mark.isDigit = true := by
        refine arePlaces mark ?_
        rw [List.append_nil] at rest
        simp [shape, ← rest]
      rw [if_neg (ne_of_isDigit isDigit rfl)] at onDay
      cases onDay

/-- A day that ends a numeral without separators is all that is left of it. -/
theorem exists_of_readDay? (numeral : IsNumeral whole tail) {fields found : Fields}
    {more : List Char} (areMore : IsDigits more)
    (read : readDay? false fields (more ++ tail) = some found) :
    ∃ day, more = fixedDigits 2 day ∧ tail = [] ∧ day < 100 ∧
      found = { fields with day := day } := by
  obtain ⟨⟨day, afterDay⟩, dayRead, onDay⟩ := Option.bind_eq_some_iff.mp read
  rw [takeField?, if_neg Bool.false_ne_true] at dayRead
  obtain ⟨left, rfl, rfl, fits⟩ := exists_of_readDigits? (fun _ => numeral.stopsDigits) dayRead
  dsimp only at onDay
  split at onDay
  · unfold readTime? at onDay
    split at onDay
    · next nothing =>
      obtain ⟨rfl, rfl⟩ := List.append_eq_nil_iff.mp nothing
      cases onDay
      exact ⟨day, List.append_nil _, rfl, fits, rfl⟩
    · cases onDay
    · next mark rest _ shape =>
      have noMark : ¬ (mark = 'T' ∨ mark = ' ') := by
        have digitOrPoint : mark.isDigit = true ∨ mark = '.' := by
          cases left with
          | nil => exact .inr (numeral.stops (by rw [← List.nil_append tail, shape]; rfl))
          | cons next others =>
            obtain ⟨rfl, _⟩ := List.cons.inj shape
            exact .inl (areMore next (by simp))
        rcases digitOrPoint with isDigit | rfl
        · exact not_or.mpr ⟨ne_of_isDigit isDigit rfl, ne_of_isDigit isDigit rfl⟩
        · decide
      rw [if_neg noMark] at onDay
      cases onDay
  · cases onDay

/-- A numeral in the standard form is a year, a year and a month, or a date of eight digits. -/
theorem names_of_readFields? (numeral : IsNumeral whole tail) {fields : Fields} {found : Moment}
    (fieldsRead : readFields? (whole ++ tail) = some fields)
    (read : fields.reading = .moment found) :
    found.offset = none ∧ NumeralNames (numberOf whole) (tail = [] ∨ tail = ['.']) found.clock := by
  obtain ⟨named, shifted⟩ := clock_of_reading read
  obtain ⟨⟨yearSame, monthSame, daySame⟩, timeSame⟩ := DateTime.of?_eq_some_iff.mp named
  have positive := found.clock.date.exists_day.1
  have bounded := found.clock.date.exists_day.2.1
  have stops : ∀ next, tail.head? = some next → next.isDigit = false :=
    fun _ => numeral.stopsDigits
  obtain ⟨⟨year, rest⟩, yearRead, onRest⟩ := Option.bind_eq_some_iff.mp fieldsRead
  obtain ⟨more, rfl, rfl, yearFits⟩ := exists_of_readDigits? stops yearRead
  have yearNumber : numberOf (fixedDigits 4 year) = year := numberOf_fixedDigits yearFits
  cases more with
  | nil =>
    rw [List.append_nil, yearNumber]
    have onlyMonth : ∃ month, fields = { year := year, month := month } := by
      rcases numeral.ending with rfl | ⟨places, arePlaces, rfl⟩
      · cases onRest
        exact ⟨1, rfl⟩
      · have separates : isDateSeparator '.' = true := by decide
        simp only [List.nil_append, separates, if_true] at onRest
        exact exists_of_readSeparatedMonth? arePlaces onRest
    obtain ⟨month, rfl⟩ := onlyMonth
    dsimp only at yearSame
    rw [DateTime.eq_atMidnight timeSame, ← yearSame]
    exact ⟨shifted, .day positive bounded⟩
  | cons digit others =>
    have isDigit : digit.isDigit = true := numeral.areDigits digit (by simp)
    have noSeparator : isDateSeparator digit = false := by
      simp [isDateSeparator, ne_of_isDigit isDigit]
    simp only [List.cons_append, noSeparator, Bool.false_eq_true, if_false] at onRest
    obtain ⟨⟨month, afterMonth⟩, monthRead, onMonth⟩ := Option.bind_eq_some_iff.mp onRest
    rw [takeField?, if_neg Bool.false_ne_true, ← List.cons_append] at monthRead
    obtain ⟨moreDays, shape, rfl, monthFits⟩ := exists_of_readDigits? stops monthRead
    dsimp only at onMonth
    split at onMonth
    · cases onMonth
    · have areMore : IsDigits moreDays :=
        fun _ present => numeral.areDigits _ (by simp [shape, present])
      obtain ⟨day, rfl, rfl, dayFits, rfl⟩ := exists_of_readDay? numeral areMore onMonth
      rw [DateTime.eq_atMidnight timeSame]
      refine ⟨shifted, .compact (.inl rfl) ?_⟩
      rw [shape, numberOf_append, numberOf_append, yearNumber, numberOf_fixedDigits monthFits,
        numberOf_fixedDigits dayFits, List.length_append, length_fixedDigits, length_fixedDigits,
        Date.compact, yearSame, monthSame, daySame]
      dsimp only
      omega

/-! ## Numerals in other forms -/

theorem startsWithTime_of_numeral (numeral : IsNumeral whole tail) :
    startsWithTime (whole ++ tail) = false := by
  unfold startsWithTime
  split
  · next hour rest read =>
    obtain ⟨front, more, shape, left⟩ :=
      exists_of_readOneOrTwo? (fun _ first => numeral.stopsDigits first) read
    cases more with
    | nil => cases numeral.stops (by rw [← List.nil_append tail, ← left]; rfl)
    | cons digit others =>
      obtain ⟨rfl, _⟩ := List.cons.inj left
      exact absurd (numeral.areDigits ':' (by rw [shape]; simp)) (by decide)
  · rfl

/-- Only the point of a numeral can be a delimiter. -/
theorem eq_of_takePart? (numeral : IsNumeral whole tail) {value : Nat} {mark : Char}
    {rest : List Char} (taken : takePart? (whole ++ tail) = some (value, mark, rest)) :
    tail = mark :: rest := by
  obtain ⟨⟨part, after⟩, read, onMark⟩ := Option.bind_eq_some_iff.mp taken
  obtain ⟨front, more, shape, rfl⟩ :=
    exists_of_readOneOrTwo? (fun _ first => numeral.stopsDigits first) read
  cases more with
  | nil =>
    dsimp only at onMark
    rw [List.nil_append] at onMark
    split at onMark
    · cases onMark
    · split at onMark
      · cases onMark
        rfl
      · cases onMark
  | cons digit others =>
    have isDigit : digit.isDigit = true := numeral.areDigits digit (by rw [shape]; simp)
    have noDelimiter : isDelimiter digit = false := by
      simp [isDelimiter, ne_of_isDigit isDigit]
    simp only [List.cons_append, noDelimiter, Bool.false_eq_true, if_false] at onMark
    cases onMark

/-- A numeral is no delimited date. -/
theorem readDelimited_of_numeral (numeral : IsNumeral whole tail) :
    readDelimited (whole ++ tail) = .otherShape := by
  unfold readDelimited
  split
  · rfl
  · next first mark afterFirst taken =>
    have shape := eq_of_takePart? numeral taken
    rcases numeral.ending with rfl | ⟨places, arePlaces, rfl⟩
    · cases shape
    · obtain ⟨rfl, rfl⟩ := List.cons.inj shape
      split
      · next second next afterSecond takenNext =>
        by_cases some : places = []
        · subst some
          cases takenNext
        · rw [← List.append_nil places] at takenNext
          cases eq_of_takePart? ⟨some, arePlaces, .inl rfl⟩ takenNext
      · rw [if_neg (by simp)]

/-- What begins with no digit begins with no part of a date and with no clock. -/
theorem readOneOrTwo?_eq_none {mark : Char} (other : mark.isDigit = false) (rest : List Char) :
    readOneOrTwo? (mark :: rest) = none := by
  have noDigit := asciiDigitValue?_eq_none other
  cases rest <;> simp [readOneOrTwo?, readDigits?, readDigitsAfter?, noDigit]

/-- A numeral that is read as a bare year has no point. -/
theorem names_of_readBareYear? {characters : List Char} (numeral : IsNumeral whole tail)
    (sign : takeSign characters = (false, whole ++ tail)) {found : Moment}
    (read : readBareYear? characters = some (.moment found)) :
    found.offset = none ∧ NumeralNames (numberOf whole) (tail = [] ∨ tail = ['.']) found.clock := by
  unfold readBareYear? at read
  split at read
  · cases read
  · obtain ⟨value, valueRead, onDate⟩ := Option.bind_eq_some_iff.mp read
    obtain ⟨date, named, same⟩ := Option.bind_eq_some_iff.mp onDate
    cases same
    obtain ⟨_, rfl⟩ := eq_of_readInteger? numeral sign valueRead
    obtain ⟨year, _, _⟩ := Date.of?_eq_some_iff.mp named
    rw [Int.toNat_natCast] at year
    have positive := date.exists_day.1
    have bounded := date.exists_day.2.1
    exact ⟨rfl, .day (by omega) (by omega)⟩

/-- A plus sign in front makes a phrase no date. -/
theorem readPhrase?_plus (rest : List Char) : readPhrase? false ('+' :: rest) = none := by
  have starts : TokenKind.start? '+' = none := by decide
  have lone : loneToken '+' = ['+'] := by decide
  have kept : ('+' :: rest).filter (fun character => character.toNat ≠ 0) =
      '+' :: rest.filter fun character => character.toNat ≠ 0 := List.filter_cons_of_pos (by decide)
  have alone : Phrase.IsMarkAlone ['+'] := by decide
  have noJoining : isJoining ['+'] = false := by decide
  have step (after : List Token) : Phrase.step? {} [] ['+'] after = none := by
    obtain ⟨noFigure, noWeekday, noMonth, noHalf⟩ := alone
    have noZone : Phrase.couldBeZone {} ['+'] = false := rfl
    simp only [Phrase.step?, noFigure, noWeekday, noMonth, noHalf, noZone, noJoining,
      Bool.false_eq_true, if_false, Option.isSome_none, Bool.false_and]
  rw [readPhrase?, tokens, kept, splitTokens_mark starts, lone, List.length_cons,
    Phrase.readFrom?_cons, step]
  rfl

/-- A numeral without a minus sign that is read in another form names what a numeral can name. -/
theorem names_of_readOther {characters : List Char} (numeral : IsNumeral whole tail)
    (sign : takeSign characters = (false, whole ++ tail)) {found : Moment}
    (read : readOther characters = .moment found) :
    found.offset = none ∧ NumeralNames (numberOf whole) (tail = [] ∨ tail = ['.']) found.clock := by
  have shape := eq_or_eq_cons_of_takeSign sign
  have plusRead : readOneOrTwo? ('+' :: (whole ++ tail)) = none :=
    readOneOrTwo?_eq_none (by decide) _
  have noTime : startsWithTime characters = false := by
    rcases shape with rfl | rfl
    · exact startsWithTime_of_numeral numeral
    · rw [startsWithTime, plusRead]
  have noDelimiters : readDelimited characters = .otherShape := by
    rcases shape with rfl | rfl
    · exact readDelimited_of_numeral numeral
    · rw [readDelimited, takePart?, plusRead]
      rfl
  have noQuarter : readQuarter? characters = none := by
    have inner : ∀ character ∈ whole ++ tail, character ≠ 'Q' ∧ character ≠ 'q' :=
      numeral.forall_mem
        (fun digit isDigit => ⟨ne_of_isDigit isDigit rfl, ne_of_isDigit isDigit rfl⟩)
        (by decide)
    refine readQuarter?_eq_none ?_
    rcases shape with rfl | rfl
    · exact inner
    · exact List.forall_mem_cons.mpr ⟨by decide, inner⟩
  unfold readOther at read
  split at read
  · cases read
  · rw [noTime, if_neg Bool.false_ne_true, noDelimiters, noQuarter] at read
    dsimp only at read
    split at read
    · next bareYear =>
      subst read
      exact names_of_readBareYear? numeral sign bareYear
    · have phraseRead := readPhrase?_of_readingOfPhrase read
      rcases shape with rfl | rfl
      · exact names_of_readPhrase? numeral phraseRead
      · rw [readPhrase?_plus] at phraseRead
        cases phraseRead

/-- A numeral with a minus sign is a number that is too small to be a year. -/
theorem isSmallNumber_of_minus (numeral : IsNumeral whole tail) :
    isSmallNumber ('-' :: (whole ++ tail)) = true := by
  obtain ⟨⟨coefficient, exponent⟩, read⟩ := Option.isSome_iff_exists.mp numeral.isSome_readUnsigned?
  have sign : takeSign ('-' :: (whole ++ tail)) = (true, whole ++ tail) := rfl
  rw [isSmallNumber, sign]
  dsimp only
  rw [read]
  rfl

end DateText

/-- A text that is a numeral, perhaps behind a sign, and is read as a date, has no minus sign. Its
moment has no offset, and its clock is one that the numeral can name. -/
theorem names_of_readDateText {present : DateTime} {text : String} {negative : Bool}
    {whole tail : List Char} {found : Moment} (numeral : IsNumeral whole tail)
    (sign : takeSign text.toList = (negative, whole ++ tail))
    (read : readDateText present text = .moment found) :
    negative = false ∧ found.offset = none ∧
      NumeralNames (numberOf whole) (tail = [] ∨ tail = ['.']) found.clock := by
  have inner : ∀ character ∈ whole ++ tail, isBlank character = false :=
    numeral.forall_mem (fun _ => isBlank_of_isDigit) (by decide)
  cases negative with
  | true =>
    have shape := eq_cons_of_takeSign sign
    have unblank : ∀ character ∈ text.toList, isBlank character = false :=
      shape ▸ List.forall_mem_cons.mpr ⟨by decide, inner⟩
    have noFields : DateText.readFields? ('-' :: (whole ++ tail)) = none := rfl
    rw [readDateText, strip_eq_self_of_forall unblank, shape, DateText.read.eq_def] at read
    simp only [noFields, DateText.readOther, DateText.isSmallNumber_of_minus numeral,
      if_true] at read
    cases read
  | false =>
    have shape := eq_or_eq_cons_of_takeSign sign
    have unblank : ∀ character ∈ text.toList, isBlank character = false := by
      rcases shape with same | same
      · exact same ▸ inner
      · exact same ▸ List.forall_mem_cons.mpr ⟨by decide, inner⟩
    have noLetter : ∀ character ∈ whole ++ tail, character ≠ 'o' :=
      numeral.forall_mem (fun _ isDigit => ne_of_isDigit isDigit rfl) (by decide)
    have noWord : text.toList ∉ DateText.presentWords := by
      rcases shape with same | same
      · exact same ▸ DateText.not_mem_presentWords noLetter
      · exact same ▸ DateText.not_mem_presentWords (List.forall_mem_cons.mpr ⟨by decide, noLetter⟩)
    rw [readDateText, strip_eq_self_of_forall unblank, DateText.read.eq_def, if_neg noWord] at read
    refine ⟨rfl, ?_⟩
    split at read
    · cases read
    · split at read
      · next fields fieldsRead =>
        rcases shape with same | same
        · rw [same] at fieldsRead
          exact DateText.names_of_readFields? numeral fieldsRead read
        · rw [same] at fieldsRead
          cases fieldsRead
      · exact DateText.names_of_readOther numeral sign read

/-- A text of strict form is no numeral. -/
theorem StrictText.not_numeral_of_spells {moment : Moment} {characters whole tail : List Char}
    {negative : Bool} (spells : Spells moment characters)
    (sign : takeSign characters = (negative, whole ++ tail)) : ¬ IsNumeral whole tail := by
  intro numeral
  have noHyphen : ∀ character ∈ whole ++ tail, character ≠ '-' :=
    numeral.forall_mem (fun _ isDigit hyphen => by rw [hyphen] at isDigit; cases isDigit)
      (by decide)
  obtain ⟨digit, others, rfl, isDigit, hyphen⟩ := exists_digit_of_spells spells
  cases negative with
  | true =>
    obtain ⟨rfl, _⟩ := List.cons.inj (eq_cons_of_takeSign sign)
    cases isDigit
  | false =>
    rcases eq_or_eq_cons_of_takeSign sign with same | same
    · exact noHyphen _ (same ▸ List.mem_cons_of_mem _ hyphen) rfl
    · obtain ⟨rfl, _⟩ := List.cons.inj same
      cases isDigit

end SheetIntake.Calendar
