import SheetIntake.Proofs.Calendar.StandardText
import SheetIntake.Proofs.Calendar.Tokens

/-!
# Strict texts read as phrases

A strict text that is no standard one is read as a phrase: a year that is joined with month and day,
a mark that is passed over, hours that are joined with minutes and seconds, and an offset. What
comes out is the moment that the text spells, unless some mark of it is not known in phrases.
-/

namespace SheetIntake.Calendar.DateText

open SheetIntake.Decimal SheetIntake.Text

theorem fixedDigits_ne_nil (width value : Nat) : fixedDigits (width + 1) value ≠ [] := by
  rw [← List.length_pos_iff, length_fixedDigits]
  exact Nat.succ_pos width

theorem figure?_fixedDigits (width value : Nat) :
    figure? (fixedDigits (width + 1) value) =
      some ⟨digitsOf (fixedDigits (width + 1) value), []⟩ :=
  figure?_digits (fixedDigits_ne_nil width value) (isDigits_fixedDigits _ value)

theorem count?_fixedDigits {width value : Nat} (fits : value < 10 ^ (width + 1)) :
    count? (fixedDigits (width + 1) value) = some value := by
  rw [count?_digits (fixedDigits_ne_nil width value) (isDigits_fixedDigits _ value),
    numberOf_fixedDigits fits]

theorem count?_two {value : Nat} (fits : value < 100) : count? (fixedDigits 2 value) = some value :=
  count?_fixedDigits fits

namespace Phrase

/-- What a date in a strict text adds to an empty phrase. -/
def ofDate (date : Date) : Phrase :=
  { members := [⟨.year, date.year⟩, ⟨.unnamed, date.month⟩, ⟨.unnamed, date.day⟩] }

/-- A number is a member of a date if no month has its name. -/
theorem addMonthOrCount?_fixedDigits {phrase : Phrase} {value : Nat} (fits : value < 100) :
    phrase.addMonthOrCount? (fixedDigits 2 value) =
      some { phrase with members := phrase.members ++ [⟨.unnamed, value⟩] } := by
  have noMonth : place? monthNames (fixedDigits 2 value) = none :=
    place?_of_isDigits (fixedDigits_ne_nil 1 value) (isDigits_fixedDigits 2 value) (by decide)
  rw [addMonthOrCount?, noMonth]
  simp [addCount?, count?_two fits, addMember?]

/-- A number between marks has no unit. -/
theorem unit?_eq_none {before rest : List Token} {mark : Token}
    (noUnit : place? unitNames mark = none) (noBlank : isMark ' ' mark = false)
    (noUnitBefore : ∀ token, before.head? = some token → place? unitNames token = none) :
    unit? before (mark :: rest) = none := by
  have none : before.head?.bind (place? unitNames) = none := by
    cases before with
    | nil => rfl
    | cons token others => exact noUnitBefore token rfl
  cases rest with
  | nil => simp [unit?, noUnit, none]
  | cons next others => simp [unit?, noUnit, noBlank, none]

/-- A year is read together with the month and the day after it. -/
theorem step?_year (date : Date) (rest : List Token) :
    step? {} [] (fixedDigits 4 date.year)
        (['-'] :: fixedDigits 2 date.month :: ['-'] :: fixedDigits 2 date.day :: rest) =
      some (ofDate date, 4,
        ['-'] :: fixedDigits 2 date.month :: ['-'] :: fixedDigits 2 date.day :: rest) := by
  have yearFits : date.year < 10 ^ 4 := by
    have bound := date.exists_day.2.1
    omega
  have monthFits : date.month < 100 := by
    have bound := month_le_of_day date.exists_day
    omega
  have dayFits : date.day < 100 := by
    have bound := date.exists_day.2.2.2
    have longest := daysInMonth_le date.year date.month
    omega
  have noUnit : unit? [] (['-'] :: fixedDigits 2 date.month :: ['-'] :: fixedDigits 2 date.day ::
      rest) = none := unit?_eq_none (by decide) (by decide) nofun
  have joins : isJoining (fixedDigits 2 date.month) = false :=
    isJoining_of_isDigits (fixedDigits_ne_nil 1 _) (isDigits_fixedDigits 2 _)
  have hyphen : isMark '-' ['-'] = true := rfl
  have noColon : isMark ':' ['-'] = false := rfl
  have yearCount : count? (fixedDigits 4 date.year) = some date.year := count?_fixedDigits yearFits
  have year : addCount? {} (fixedDigits 4 date.year) =
      some { members := [⟨.year, date.year⟩] } := by
    simp [addCount?, yearCount, addMember?, hasRole]
  simp [step?, figure?_fixedDigits, addNumber?, isCompactTime, noUnit, noColon, hyphen,
    addSeparated?, year, joins, addMonthOrCount?_fixedDigits monthFits,
    addMonthOrCount?_fixedDigits dayFits, ofDate]

/-- Whether a token is no number and no name that a phrase knows, zones aside. -/
def IsMarkAlone (token : Token) : Prop :=
  figure? token = none ∧ place? weekdayNames token = none ∧ place? monthNames token = none ∧
    place? halfNames token = none

instance (token : Token) : Decidable (IsMarkAlone token) :=
  inferInstanceAs (Decidable (_ ∧ _ ∧ _ ∧ _))

/-- The mark between a date and a time is passed over, unless no phrase knows it. -/
theorem step?_separator {phrase : Phrase} (untimed : phrase.hour = none) {separator : Char}
    (separates : StrictText.isSeparator separator = true) (before after : List Token) :
    step? phrase before [separator] after =
      if separator = '_' then none else some (phrase, 0, after) := by
  have listed := StrictText.mem_separators_of_isSeparator separates
  have alone : ∀ mark ∈ StrictText.separators, IsMarkAlone [mark] :=
    List.all_iff_forall_prop.mp (by decide)
  have joins : ∀ mark ∈ StrictText.separators, isJoining [mark] = !decide (mark = '_') :=
    List.all_iff_forall_prop.mp (by decide)
  obtain ⟨noFigure, noWeekday, noMonth, noHalf⟩ := alone separator listed
  have joinsHere := joins separator listed
  have noZone : phrase.couldBeZone [separator] = false := by simp [couldBeZone, untimed]
  by_cases under : separator = '_' <;>
    simp_all [step?]

/-- A letter for universal time after a clock is the zone. -/
theorem step?_universal {phrase : Phrase} (timed : phrase.hour.isSome = true)
    (noZone : phrase.zone = none) (noOffset : phrase.offset = none) {mark : Char}
    (isMark : mark = 'Z' ∨ mark = 'z') (before : List Token) :
    step? phrase before [mark] [] =
      some ({ phrase with zone := some [mark], offset := some 0 }, 0, []) := by
  have listed : mark ∈ ['Z', 'z'] := by simpa using isMark
  have alone : ∀ mark ∈ ['Z', 'z'], IsMarkAlone [mark] := List.all_iff_forall_prop.mp (by decide)
  have universal : ∀ mark ∈ ['Z', 'z'], universalNames.contains (String.ofList [mark]) = true :=
    List.all_iff_forall_prop.mp (by decide)
  obtain ⟨noFigure, noWeekday, noMonth, noHalf⟩ := alone mark listed
  have isZone : phrase.couldBeZone [mark] = true := by
    rw [couldBeZone, universal mark listed, timed, noZone, noOffset, Bool.or_true]
    rfl
  simp only [step?, noFigure, noWeekday, noMonth, noHalf, isZone, zoneOffset?,
    universal mark listed, if_true]

/-- A sign after a clock is read together with the size of the offset. -/
theorem step?_sign {phrase : Phrase} (timed : phrase.hour.isSome = true) {sign : Char}
    (isSign : sign ∈ ['+', '-', StrictText.minusSign]) (before after : List Token) :
    step? phrase before [sign] after =
      if sign = StrictText.minusSign then none
      else
        (phrase.addOffset? (sign = '+') after).map fun (next, read) => (next, read, after) := by
  have alone : ∀ sign ∈ ['+', '-', StrictText.minusSign], IsMarkAlone [sign] :=
    List.all_iff_forall_prop.mp (by decide)
  have noName : ∀ sign ∈ ['+', '-', StrictText.minusSign], sign.isUpper = false ∧
      universalNames.contains (String.ofList [sign]) = false ∧
      isJoining [sign] = decide (sign = '-') := List.all_iff_forall_prop.mp (by decide)
  obtain ⟨noFigure, noWeekday, noMonth, noHalf⟩ := alone sign isSign
  obtain ⟨noUpper, noUniversal, joins⟩ := noName sign isSign
  have noZone : phrase.couldBeZone [sign] = false := by
    rw [couldBeZone, noUniversal]
    simp [noUpper]
  simp only [List.mem_cons, List.not_mem_nil, or_false] at isSign
  simp only [step?, noFigure, noWeekday, noMonth, noHalf, noZone, timed, joins]
  rcases isSign with rfl | rfl | rfl
  · rfl
  · rfl
  · rfl

/-- Hours and minutes of an offset are read as its size. -/
theorem addOffset?_of_spellsSize {hours minutes : Nat} {size : List Char} (hoursFit : hours < 24)
    (minutesFit : minutes < 60) (spells : StrictText.SpellsSize hours minutes size)
    (phrase : Phrase) (ahead : Bool) :
    phrase.addOffset? ahead (splitTokens none size) =
      some ({ phrase with offset := some (if ahead then Int.ofNat (hours * 60 + minutes)
        else -Int.ofNat (hours * 60 + minutes)) }, (splitTokens none size).length) := by
  have hoursBound : hours < 100 := by omega
  have minutesBound : minutes < 100 := by omega
  have some (value : Nat) : fixedDigits 2 value ≠ [] := fixedDigits_ne_nil 1 value
  have areDigits (value : Nat) := isDigits_fixedDigits 2 value
  cases spells with
  | joined =>
    have one : splitTokens none (fixedDigits 2 hours ++ fixedDigits 2 minutes) =
        [fixedDigits 2 hours ++ fixedDigits 2 minutes] := by
      have all := @splitTokens_digits _ []
        (List.append_ne_nil_of_left_ne_nil (some hours) (fixedDigits 2 minutes))
        (List.forall_mem_append.mpr ⟨areDigits hours, areDigits minutes⟩) stopsNumber_nil
      rwa [List.append_nil] at all
    have front : (fixedDigits 2 hours ++ fixedDigits 2 minutes).take 2 = fixedDigits 2 hours :=
      List.take_left' (length_fixedDigits 2 hours)
    have back : (fixedDigits 2 hours ++ fixedDigits 2 minutes).drop 2 = fixedDigits 2 minutes :=
      List.drop_left' (length_fixedDigits 2 hours)
    simp [one, addOffset?, offsetSize?, front, back, count?_two hoursBound,
      count?_two minutesBound, addZoneNote]
  | parted =>
    have three : splitTokens none (fixedDigits 2 hours ++ ':' :: fixedDigits 2 minutes) =
        [fixedDigits 2 hours, [':'], fixedDigits 2 minutes] := by
      have last := @splitTokens_digits _ [] (some minutes) (areDigits minutes) stopsNumber_nil
      rw [List.append_nil] at last
      rw [splitTokens_digits (some hours) (areDigits hours) (stopsNumber_cons.mpr (by decide)),
        splitTokens_mark (by decide), last]
      rfl
    have colon : isMark ':' [':'] = true := rfl
    simp [three, addOffset?, offsetSize?, colon, count?_two hoursBound,
      count?_two minutesBound, addZoneNote]

/-- One more token is read by a step, and the rest from where the step ends. -/
theorem readFrom?_cons (fuel : Nat) (phrase : Phrase) (before : List Token) (token : Token)
    (rest : List Token) :
    readFrom? (fuel + 1) phrase before (token :: rest) =
      (phrase.step? before token rest).bind fun (next, read, after) =>
        readFrom? fuel next ((after.take read).reverse ++ token :: before) (after.drop read) :=
  rfl

theorem readFrom?_nil (fuel : Nat) (phrase : Phrase) (before : List Token) :
    readFrom? fuel phrase before [] = some phrase := by
  cases fuel <;> rfl

/-- An offset that is read at the end of a phrase is the one that is spelled, and nothing else of
the phrase changes. -/
theorem offset?_of_readFrom? {phrase next : Phrase} (timed : phrase.hour.isSome = true)
    (noZone : phrase.zone = none) (noOffset : phrase.offset = none) {offset : Option Offset}
    {ending : List Char} (spells : StrictText.SpellsOffset offset ending) {fuel : Nat}
    {before : List Token}
    (read : readFrom? (fuel + 1) phrase before (splitTokens none ending) = some next) :
    next.offset? = some offset ∧
      ∃ zone minutes, next = { phrase with zone := zone, offset := minutes } := by
  cases spells with
  | absent =>
    cases (readFrom?_nil _ _ _).symm.trans read
    refine ⟨?_, none, none, ?_⟩
    · simp [offset?, noZone, noOffset]
    · rw [← noZone, ← noOffset]
  | @universal mark isMark =>
    have letter : splitTokens none [mark] = [[mark]] := by rcases isMark with rfl | rfl <;> rfl
    have known : universalNames.contains (String.ofList [mark]) = true := by
      rcases isMark with rfl | rfl <;> decide
    rw [letter, readFrom?_cons, step?_universal timed noZone noOffset isMark, Option.bind_some]
      at read
    cases (readFrom?_nil _ _ _).symm.trans read
    refine ⟨?_, _, _, rfl⟩
    simp only [offset?, known, if_true]
  | @signed sign hours minutes offset size hoursFit minutesFit signs spellsSize =>
    have isSign : sign ∈ ['+', '-', StrictText.minusSign] := by
      generalize offset.minutes = total at signs
      cases signs with
      | ahead => simp
      | behind minus => rcases minus with rfl | rfl <;> simp
    have startsNone : ∀ sign ∈ ['+', '-', StrictText.minusSign],
        TokenKind.start? sign = none ∧ loneToken sign = [sign] :=
    List.all_iff_forall_prop.mp (by decide)
    obtain ⟨starts, lone⟩ := startsNone sign isSign
    rw [splitTokens_mark starts, lone, readFrom?_cons, step?_sign timed isSign] at read
    split at read
    · cases read
    · next known =>
      rw [addOffset?_of_spellsSize hoursFit minutesFit spellsSize, Option.map_some,
        Option.bind_some] at read
      simp only [List.drop_length] at read
      cases (readFrom?_nil _ _ _).symm.trans read
      refine ⟨?_, _, _, rfl⟩
      have named : Offset.of? (if decide (sign = '+') = true then
          Int.ofNat (hours * 60 + minutes) else -Int.ofNat (hours * 60 + minutes)) =
            some offset := by
        rw [Offset.of?_eq_some_iff]
        generalize offset.minutes = total at signs
        cases signs with
        | ahead => rfl
        | behind minus =>
          rw [minus.resolve_right known]
          rfl
      simp only [offset?, noZone, named, Option.map_some]

/-! ## The clock -/

/-- Tokens that a phrase reads as seconds and microseconds behind hours and minutes. -/
def ReadsSeconds (second micro : Nat) (seconds : List Token) : Prop :=
  ∀ (phrase : Phrase) (hour minute : Nat) (rest : List Token), phrase.micro = none →
    rest.head? ≠ some [':'] →
      ∃ found fraction, found.getD 0 = second ∧ fraction.getD 0 = micro ∧
        phrase.addClock? ⟨digitsOf (fixedDigits 2 hour), []⟩
            (fixedDigits 2 minute :: (seconds ++ rest)) =
          some ({ phrase with
            hour := some (numberOf (fixedDigits 2 hour))
            minute := some (numberOf (fixedDigits 2 minute))
            second := found
            micro := fraction }, seconds.length + 2)

/-- Nothing is read as no seconds. -/
theorem readsSeconds_absent : ReadsSeconds 0 0 [] := by
  intro phrase hour minute rest noMicro noColon
  refine ⟨none, none, rfl, rfl, ?_⟩
  have ends : ∀ colon : Token, rest.head? = some colon → isMark ':' colon = false := by
    intro colon first
    rw [isMark, beq_eq_false_iff_ne]
    rintro rfl
    exact noColon first
  rw [List.nil_append, addClock?, figure?_fixedDigits]
  cases rest with
  | nil => simp [withMinutes, Figure.hasMore, Figure.size, valueOfDigits, numberOf, noMicro]
  | cons mark others =>
    cases others with
    | nil => simp [withMinutes, Figure.hasMore, Figure.size, valueOfDigits, numberOf, noMicro]
    | cons next more =>
      simp [withMinutes, Figure.hasMore, Figure.size, valueOfDigits, numberOf, noMicro,
        ends mark rfl]

theorem readsSeconds_present {token : Token} {figure : Figure}
    (read : figure? token = some figure) :
    ReadsSeconds figure.size figure.micros [[':'], token] := by
  intro phrase hour minute rest _ _
  refine ⟨some figure.size, some figure.micros, rfl, rfl, ?_⟩
  have colon : isMark ':' [':'] = true := rfl
  simp [addClock?, figure?_fixedDigits, withMinutes, withSeconds?, Figure.size, colon, read,
    numberOf]

theorem stopsNumber_of_spellsOffset {offset : Option Offset} {characters : List Char}
    (spells : StrictText.SpellsOffset offset characters) : StopsNumber characters := by
  cases spells with
  | absent => exact stopsNumber_nil
  | universal isMark => rcases isMark with rfl | rfl <;> exact stopsNumber_cons.mpr (by decide)
  | @signed sign _ _ offset _ _ _ signs _ =>
    rw [stopsNumber_cons]
    generalize offset.minutes = total at signs
    cases signs with
    | ahead => decide
    | behind minus => rcases minus with rfl | rfl <;> decide

/-- What spells seconds falls into tokens that are read as these seconds. -/
theorem exists_tokens_of_spellsSeconds {second micro : Nat} {seconds ending : List Char}
    (fits : second < 10 ^ 2) (spells : StrictText.SpellsSeconds second micro seconds)
    (stops : StopsNumber ending) :
    ∃ pieces, ReadsSeconds second micro pieces ∧ ∀ minute,
      splitTokens none (fixedDigits 2 minute ++ (seconds ++ ending)) =
        fixedDigits 2 minute :: (pieces ++ splitTokens none ending) := by
  have some (value : Nat) : fixedDigits 2 value ≠ [] := fixedDigits_ne_nil 1 value
  have areDigits (value : Nat) := isDigits_fixedDigits 2 value
  have colonStops (rest : List Char) : StopsNumber (':' :: rest) :=
    stopsNumber_cons.mpr (by decide)
  cases spells with
  | absent =>
    refine ⟨[], readsSeconds_absent, fun minute => ?_⟩
    rw [List.nil_append, splitTokens_digits (some _) (areDigits _) stops, List.nil_append]
  | whole =>
    have reads := readsSeconds_present (figure?_fixedDigits 1 second)
    have size : (⟨digitsOf (fixedDigits 2 second), []⟩ : Figure).size = second :=
      numberOf_fixedDigits fits
    rw [size] at reads
    refine ⟨_, reads, fun minute => ?_⟩
    rw [List.cons_append, splitTokens_digits (some _) (areDigits _) (colonStops _),
      splitTokens_mark (by decide), splitTokens_digits (some _) (areDigits _) stops]
    rfl
  | @parted _ mark digits isMark more areMore =>
    have reads := readsSeconds_present
      (figure?_fraction (some second) (areDigits second) more areMore)
    have size : (⟨digitsOf (fixedDigits 2 second), digitsOf digits⟩ : Figure).size = second :=
      numberOf_fixedDigits fits
    have micros : (⟨digitsOf (fixedDigits 2 second), digitsOf digits⟩ : Figure).micros =
        StrictText.microsOf digits := (StrictText.microsOf_eq digits).symm
    rw [size, micros] at reads
    refine ⟨_, reads, fun minute => ?_⟩
    have joined : mark = '.' ∨ mark = ',' ∧ 2 ≤ (fixedDigits 2 second).length :=
      isMark.imp_right fun comma => ⟨comma, Nat.le_of_eq (length_fixedDigits 2 second).symm⟩
    rw [List.append_assoc, List.cons_append, List.cons_append,
      splitTokens_digits (some _) (areDigits _) (colonStops _), splitTokens_mark (by decide),
      splitTokens_fraction (some _) (areDigits _) joined more areMore stops]
    rfl

/-- An offset does not begin with a colon. -/
theorem head_splitTokens_of_spellsOffset {offset : Option Offset} {ending : List Char}
    (spells : StrictText.SpellsOffset offset ending) :
    (splitTokens none ending).head? ≠ some [':'] := by
  cases spells with
  | absent => simp [splitTokens]
  | universal isMark => rcases isMark with rfl | rfl <;> decide
  | @signed sign _ _ offset size _ _ signs _ =>
    have isSign : sign ∈ ['+', '-', StrictText.minusSign] := by
      generalize offset.minutes = total at signs
      cases signs with
      | ahead => simp
      | behind minus => rcases minus with rfl | rfl <;> simp
    have startsNone : ∀ sign ∈ ['+', '-', StrictText.minusSign],
        TokenKind.start? sign = none ∧ some (loneToken sign) ≠ some [':'] :=
        List.all_iff_forall_prop.mp (by decide)
    obtain ⟨starts, noColon⟩ := startsNone sign isSign
    rw [splitTokens_mark starts]
    exact noColon

/-- Hours before a colon are read with what is behind it. -/
theorem step?_hour (date : Date) (hour : Nat) {separator : Char}
    (separates : StrictText.isSeparator separator = true) (before rest : List Token)
    (some : rest ≠ []) :
    step? (ofDate date) ([separator] :: before) (fixedDigits 2 hour) ([':'] :: rest) =
      (addClock? (ofDate date) ⟨digitsOf (fixedDigits 2 hour), []⟩ rest).map
        fun (next, read) => (next, read, [':'] :: rest) := by
  have listed := StrictText.mem_separators_of_isSeparator separates
  have noUnits : ∀ mark ∈ StrictText.separators, place? unitNames [mark] = none :=
    List.all_iff_forall_prop.mp (by decide)
  have noUnit : unit? ([separator] :: before) ([':'] :: rest) = none := by
    apply unit?_eq_none (by decide) (by decide)
    intro token first
    cases first
    exact noUnits separator listed
  have colon : isMark ':' [':'] = true := rfl
  simp [step?, figure?_fixedDigits, addNumber?, isCompactTime, noUnit, colon, some]

/-- A phrase of a date with a clock and an offset names the moment that they make. -/
theorem moment?_of_clock {date : Date} {time : TimeOfDay} {phrase : Phrase}
    (members : phrase.members = (ofDate date).members) (weekday : phrase.weekday = none)
    (hour : phrase.hour = some time.hour) (minute : phrase.minute = some time.minute)
    (second : phrase.second.getD 0 = time.second) (micro : phrase.micro.getD 0 = time.micro)
    {offset : Option Offset} (shifted : phrase.offset? = some offset) :
    phrase.moment? false = some ⟨⟨date, time⟩, offset⟩ := by
  have parts : resolveMembers? phrase.members =
      some ⟨some date.year, some date.month, some date.day⟩ := by
    rw [members]
    simp [ofDate, resolveMembers?, threeNumbers]
  have year : fullYear date.year (hasRole .year phrase.members) = date.year := by
    rw [members]
    simp [ofDate, hasRole, fullYear]
  simp [moment?, parts, namesSomething, clock?, year, hour, minute, second, micro, weekday,
    DateTime.of?, shifted]

end Phrase

theorem tokens_of_forall {characters : List Char}
    (known : ∀ character ∈ characters, character.toNat ≠ 0) :
    tokens characters = splitTokens none characters := by
  rw [tokens, List.filter_eq_self.mpr]
  simpa using known

/-- The separator of date and time is a token. -/
theorem splitTokens_separator {separator : Char}
    (separates : StrictText.isSeparator separator = true) (hour : Nat) (rest : List Char) :
    splitTokens none (separator :: (fixedDigits 2 hour ++ rest)) =
      [separator] :: splitTokens none (fixedDigits 2 hour ++ rest) := by
  have listed := StrictText.mem_separators_of_isSeparator separates
  simp only [StrictText.separators, List.mem_cons, List.not_mem_nil, or_false] at listed
  have letter : ∀ next, (fixedDigits 2 hour ++ rest).head? = some next →
      isLetter next = false ∧ next ≠ '.' := by
    intro next first
    rw [fixedDigits_succ, List.cons_append, List.head?_cons] at first
    cases first
    have isDigit := isDigit_digitCharacter (Nat.mod_lt (hour / 10 ^ 1) (by decide : 0 < 10))
    exact ⟨isLetter_of_isDigit isDigit, ne_of_isDigit isDigit rfl⟩
  rcases listed with rfl | rfl | rfl | rfl
  · exact splitTokens_letter (by decide) letter
  · exact splitTokens_letter (by decide) letter
  · exact splitTokens_mark (by decide) _
  · exact splitTokens_mark (by decide) _

section

variable {date : Date} {time : TimeOfDay} {offset : Option Offset} {separator : Char}
  {seconds ending : List Char} (separates : StrictText.isSeparator separator = true)
  (spellsSeconds : StrictText.SpellsSeconds time.second time.micro seconds)
  (spellsOffset : StrictText.SpellsOffset offset ending)

include separates spellsSeconds spellsOffset

/-- A strict text with a time is cut into its fields and the marks between them. -/
theorem tokens_of_time {pieces : List Token}
    (minuteTokens : splitTokens none (fixedDigits 2 time.minute ++ (seconds ++ ending)) =
      fixedDigits 2 time.minute :: (pieces ++ splitTokens none ending)) :
    tokens (date.isoCharacters ++ separator :: (fixedDigits 2 time.hour ++
      ':' :: (fixedDigits 2 time.minute ++ (seconds ++ ending)))) =
        fixedDigits 4 date.year :: ['-'] :: fixedDigits 2 date.month :: ['-'] ::
          fixedDigits 2 date.day :: [separator] :: fixedDigits 2 time.hour :: [':'] ::
            fixedDigits 2 time.minute :: (pieces ++ splitTokens none ending) := by
  have listed := StrictText.mem_separators_of_isSeparator separates
  have separatorStops : ∀ mark ∈ StrictText.separators, EndsNumber mark :=
    List.all_iff_forall_prop.mp (by decide)
  have ends := separatorStops separator listed
  have hyphenStops (rest : List Char) : StopsNumber ('-' :: rest) :=
    stopsNumber_cons.mpr (by decide)
  have colonStops (rest : List Char) : StopsNumber (':' :: rest) :=
    stopsNumber_cons.mpr (by decide)
  have some (width value : Nat) := fixedDigits_ne_nil width value
  have areDigits (width value : Nat) := isDigits_fixedDigits width value
  rw [tokens_of_forall]
  · rw [Date.isoCharacters]
    simp only [List.append_assoc, List.cons_append]
    rw [splitTokens_digits (some 3 _) (areDigits 4 _) (hyphenStops _),
      splitTokens_mark (by decide),
      splitTokens_digits (some 1 _) (areDigits 2 _) (hyphenStops _),
      splitTokens_mark (by decide),
      splitTokens_digits (some 1 _) (areDigits 2 _) (stopsNumber_cons.mpr ends),
      splitTokens_separator separates,
      splitTokens_digits (some 1 _) (areDigits 2 _) (colonStops _),
      splitTokens_mark (by decide), minuteTokens]
    rfl
  · refine StrictText.forall_of_spells (fun digit isDigit => ?_)
      (List.all_iff_forall_prop.mp (by decide))
      (.time date time separates spellsSeconds spellsOffset)
    have bounds := toNat_of_isDigit isDigit
    omega

/-- A strict text with a time that is read as a phrase names the moment that it spells. -/
theorem eq_of_readPhrase? {found : Moment}
    (read : readPhrase? false (date.isoCharacters ++ separator :: (fixedDigits 2 time.hour ++
      ':' :: (fixedDigits 2 time.minute ++ (seconds ++ ending)))) = some found) :
    found = ⟨⟨date, time⟩, offset⟩ := by
  obtain ⟨inDay, inHour, inMinute, _⟩ := time.in_range
  obtain ⟨pieces, reads, minuteTokens⟩ := Phrase.exists_tokens_of_spellsSeconds (by omega)
    spellsSeconds (Phrase.stopsNumber_of_spellsOffset spellsOffset)
  rw [readPhrase?, tokens_of_time separates spellsSeconds spellsOffset (minuteTokens _)] at read
  obtain ⟨phrase, phraseRead, named⟩ := Option.bind_eq_some_iff.mp read
  simp only [List.length_cons] at phraseRead
  rw [Phrase.readFrom?_cons, Phrase.step?_year, Option.bind_some] at phraseRead
  simp only [List.drop_succ_cons, List.drop_zero] at phraseRead
  rw [Phrase.readFrom?_cons, Phrase.step?_separator rfl separates] at phraseRead
  split at phraseRead
  · cases phraseRead
  · obtain ⟨whole, fraction, second, micro, clock⟩ := reads (.ofDate date) time.hour time.minute
      (splitTokens none ending) rfl (Phrase.head_splitTokens_of_spellsOffset spellsOffset)
    simp only [Option.bind_some, List.take_zero, List.drop_zero, List.reverse_nil,
      List.nil_append] at phraseRead
    rw [Phrase.readFrom?_cons, Phrase.step?_hour date time.hour separates _ _
      (List.cons_ne_nil _ _),
      clock, Option.map_some, Option.bind_some] at phraseRead
    simp only [List.drop_succ_cons, List.drop_left] at phraseRead
    obtain ⟨shifted, zone, minutes, rfl⟩ :=
      Phrase.offset?_of_readFrom? rfl rfl rfl spellsOffset phraseRead
    have hour : numberOf (fixedDigits 2 time.hour) = time.hour :=
      numberOf_fixedDigits (by omega)
    have minute : numberOf (fixedDigits 2 time.minute) = time.minute :=
      numberOf_fixedDigits (by omega)
    refine Option.some.inj (named.symm.trans ?_)
    refine Phrase.moment?_of_clock ?_ ?_ ?_ ?_ second micro shifted
    · rfl
    · rfl
    · exact congrArg Option.some hour
    · exact congrArg Option.some minute

end

/-! ## The order of attempts -/

/-- Two digits in front are read where one would be enough. -/
theorem readOneOrTwo?_digits {first second : Char} (areDigits : IsDigits [first, second])
    (rest : List Char) :
    readOneOrTwo? (first :: second :: rest) = some (numberOf [first, second], rest) := by
  obtain ⟨fits, same⟩ := fixedDigits_numberOf areDigits
  have read := readOneOrTwo?_fixedDigits fits rest
  rwa [show fixedDigits 2 (numberOf [first, second]) = [first, second] from same] at read

/-- A text that begins with three digits begins with no clock. -/
theorem startsWithTime_of_digits {first second third : Char}
    (areDigits : IsDigits [first, second, third]) (rest : List Char) :
    startsWithTime (first :: second :: third :: rest) = false := by
  obtain ⟨isFirst, isSecond, isThird⟩ : first.isDigit ∧ second.isDigit ∧ third.isDigit := by
    simpa [IsDigits] using areDigits
  have two : IsDigits [first, second] := by simp [IsDigits, isFirst, isSecond]
  have noColon : third ≠ ':' := ne_of_isDigit isThird rfl
  rw [startsWithTime, readOneOrTwo?_digits two]
  split
  · next shape =>
    simp only [Option.some.injEq, Prod.mk.injEq, List.cons.injEq] at shape
    exact absurd shape.2.1 noColon
  · rfl

/-- A text that begins with three digits is no delimited date. -/
theorem readDelimited_of_digits {first second third : Char}
    (areDigits : IsDigits [first, second, third]) (rest : List Char) :
    readDelimited (first :: second :: third :: rest) = .otherShape := by
  obtain ⟨isFirst, isSecond, isThird⟩ : first.isDigit ∧ second.isDigit ∧ third.isDigit := by
    simpa [IsDigits] using areDigits
  have two : IsDigits [first, second] := by simp [IsDigits, isFirst, isSecond]
  have noDelimiter : isDelimiter third = false := by
    simp [isDelimiter, ne_of_isDigit isThird]
  simp [readDelimited, takePart?, readOneOrTwo?_digits two, noDelimiter]

/-- A text that begins with a digit has no sign. -/
theorem takeSign_of_isDigit {digit : Char} (isDigit : digit.isDigit = true) (rest : List Char) :
    takeSign (digit :: rest) = (false, digit :: rest) := by
  have noMinus : digit ≠ '-' := ne_of_isDigit isDigit rfl
  have noPlus : digit ≠ '+' := ne_of_isDigit isDigit rfl
  unfold takeSign
  split
  · next shape => exact absurd (List.cons.inj shape).1 noMinus
  · next shape => exact absurd (List.cons.inj shape).1 noPlus
  · rfl

/-- A number does not go on with a hyphen. -/
theorem isSmallNumber_of_hyphen {digit : Char} {digits : List Char}
    (areDigits : IsDigits (digit :: digits)) (rest : List Char) :
    isSmallNumber (digit :: digits ++ '-' :: rest) = false := by
  have taken : takeDigits asciiDigitValue? (digit :: digits ++ '-' :: rest) =
      (digitsOf (digit :: digits), '-' :: rest) := by
    apply takeDigits_ascii areDigits
    intro next first
    cases first
    rfl
  have noNumber : readUnsigned? asciiDigitValue? (digit :: digits ++ '-' :: rest) = none := by
    rw [readUnsigned?, taken]
    rfl
  rw [List.cons_append] at noNumber ⊢
  rw [isSmallNumber, takeSign_of_isDigit (areDigits digit List.mem_cons_self)]
  dsimp only
  rw [noNumber, Bool.and_false]

/-- A text without the letter for a quarter names none. -/
theorem readQuarter?_eq_none {characters : List Char}
    (noLetter : ∀ character ∈ characters, character ≠ 'Q' ∧ character ≠ 'q') :
    readQuarter? characters = none := by
  have noParts : quarterParts? characters = none := by
    simp only [quarterParts?]
    split
    all_goals simp_all
  rw [readQuarter?, noParts]
  rfl

/-- What a text names as a phrase is the moment of the phrase. -/
theorem readPhrase?_of_readingOfPhrase {complete : Bool} {characters : List Char} {found : Moment}
    (read : readingOfPhrase complete characters = .moment found) :
    readPhrase? complete characters = some found := by
  unfold readingOfPhrase at read
  split at read
  · next moment phraseRead =>
    split at read
    · cases read
      exact phraseRead
    · cases read
  · cases read

/-- A strict text with a time that is read in another form names the moment that it spells. -/
theorem eq_of_readOther {date : Date} {time : TimeOfDay} {offset : Option Offset}
    {separator : Char} {seconds ending : List Char} {found : Moment}
    (separates : StrictText.isSeparator separator = true)
    (spellsSeconds : StrictText.SpellsSeconds time.second time.micro seconds)
    (spellsOffset : StrictText.SpellsOffset offset ending)
    (read : readOther (date.isoCharacters ++ separator :: (fixedDigits 2 time.hour ++
      ':' :: (fixedDigits 2 time.minute ++ (seconds ++ ending)))) = .moment found) :
    found = ⟨⟨date, time⟩, offset⟩ := by
  generalize shape : date.isoCharacters ++ separator :: (fixedDigits 2 time.hour ++
    ':' :: (fixedDigits 2 time.minute ++ (seconds ++ ending))) = characters at read
  obtain ⟨first, second, third, fourth, four⟩ : ∃ first second third fourth,
      fixedDigits 4 date.year = [first, second, third, fourth] :=
    ⟨_, _, _, _, by simp only [fixedDigits_succ]; rfl⟩
  have areDigits : IsDigits [first, second, third, fourth] := four ▸ isDigits_fixedDigits 4 _
  obtain ⟨rest, year⟩ : ∃ rest, characters = [first, second, third, fourth] ++ '-' :: rest := by
    rw [← shape, Date.isoCharacters, four]
    exact ⟨_, rfl⟩
  have long : 7 < characters.length := by
    rw [← shape]
    simp only [Date.isoCharacters, List.length_append, List.length_cons, length_fixedDigits]
    omega
  have front : IsDigits [first, second, third] := fun digit present =>
    areDigits digit (List.mem_append_left [fourth] present)
  have noSmall : isSmallNumber characters = false := by
    rw [year]
    exact isSmallNumber_of_hyphen areDigits rest
  have noTime : startsWithTime characters = false := by
    rw [year]
    exact startsWithTime_of_digits front _
  have noDelimiters : readDelimited characters = .otherShape := by
    rw [year]
    exact readDelimited_of_digits front _
  have noYear : readBareYear? characters = none := by
    rw [readBareYear?, if_pos (by omega)]
  have noQuarter : readQuarter? characters = none := by
    rw [← shape]
    apply readQuarter?_eq_none
    refine StrictText.forall_of_spells (fun digit isDigit => ?_)
      (List.all_iff_forall_prop.mp (by decide))
      (.time date time separates spellsSeconds spellsOffset)
    exact ⟨ne_of_isDigit isDigit rfl, ne_of_isDigit isDigit rfl⟩
  rw [readOther, noSmall, noTime, noDelimiters] at read
  simp only [Bool.false_eq_true, if_false, noYear, noQuarter] at read
  have phraseRead := readPhrase?_of_readingOfPhrase read
  rw [← shape] at phraseRead
  exact eq_of_readPhrase? separates spellsSeconds spellsOffset phraseRead

end DateText

/-- A strict text that is read as a date of any form names the moment that it spells. -/
theorem eq_of_readDateText {present : DateTime} {moment found : Moment} {text : String}
    (spells : StrictText.Spells moment text.toList)
    (read : readDateText present text = .moment found) : found = moment := by
  rw [readDateText, StrictText.strip_of_spells spells, DateText.read.eq_def,
    if_neg (DateText.not_mem_presentWords_of_spells spells)] at read
  split at read
  · cases read
  · split at read
    · next fields fieldsRead =>
      rw [DateText.eq_ofMoment_of_readFields? spells fieldsRead,
        DateText.Fields.reading_ofMoment] at read
      split at read
      · cases read
        rfl
      · cases read
    · next noFields =>
      generalize text.toList = characters at spells read noFields
      cases spells with
      | day date =>
        rw [← List.append_nil date.isoCharacters, DateText.readFields?_isoCharacters] at noFields
        cases noFields
      | time date time separates spellsSeconds spellsOffset =>
        exact DateText.eq_of_readOther separates spellsSeconds spellsOffset read

end SheetIntake.Calendar
