import Mathlib.Data.Bool.AllAny
import SheetIntake.Proofs.Calendar.IsoText
import SheetIntake.Proofs.Decimal.DigitText

/-!
# The form of strict date texts

What the narrow reader of stored records accepts is said here without the reader: a date, or a date
and a time with a separator between them, with or without seconds, a fraction and an offset. The
reader is followed from its last part to its first; each part that it takes is spelled by what it
has taken from the text.
-/

namespace SheetIntake.Calendar

open SheetIntake.Decimal SheetIntake.Text

/-! ## Fields that are within their ranges -/

theorem Date.of?_eq_some_iff {year month day : Nat} {date : Date} :
    Date.of? year month day = some date ↔
      date.year = year ∧ date.month = month ∧ date.day = day := by
  constructor
  · intro named
    unfold Date.of? at named
    split at named
    · cases named
      exact ⟨rfl, rfl, rfl⟩
    · cases named
  · rintro ⟨rfl, rfl, rfl⟩
    exact Date.of?_self date

theorem TimeOfDay.of?_eq_some_iff {hour minute second micro : Nat} {time : TimeOfDay} :
    TimeOfDay.of? hour minute second micro = some time ↔
      time.hour = hour ∧ time.minute = minute ∧ time.second = second ∧ time.micro = micro := by
  constructor
  · intro named
    unfold TimeOfDay.of? at named
    split at named
    · cases named
      exact ⟨rfl, rfl, rfl, rfl⟩
    · cases named
  · rintro ⟨rfl, rfl, rfl, rfl⟩
    exact TimeOfDay.of?_self time

/-- The fields of a date-time that is found are those that it was found by. -/
theorem DateTime.of?_eq_some_iff {year month day hour minute second micro : Nat}
    {clock : DateTime} :
    DateTime.of? year month day hour minute second micro = some clock ↔
      (clock.date.year = year ∧ clock.date.month = month ∧ clock.date.day = day) ∧
        clock.time.hour = hour ∧ clock.time.minute = minute ∧ clock.time.second = second ∧
          clock.time.micro = micro := by
  constructor
  · intro named
    obtain ⟨date, dateNamed, onTime⟩ := Option.bind_eq_some_iff.mp named
    obtain ⟨time, timeNamed, same⟩ := Option.bind_eq_some_iff.mp onTime
    cases same
    exact ⟨Date.of?_eq_some_iff.mp dateNamed, TimeOfDay.of?_eq_some_iff.mp timeNamed⟩
  · rintro ⟨date, time⟩
    rw [DateTime.of?, Date.of?_eq_some_iff.mpr date, TimeOfDay.of?_eq_some_iff.mpr time]
    rfl

theorem Offset.of?_eq_some_iff {minutes : Int} {offset : Offset} :
    Offset.of? minutes = some offset ↔ offset.minutes = minutes := by
  constructor
  · intro named
    unfold Offset.of? at named
    split at named
    · cases named
      rfl
    · cases named
  · rintro rfl
    rw [Offset.of?, dif_pos offset.less_than_day]

namespace StrictText

/-! ## The parts of a text -/

/-- The microseconds of the first six digits of a fraction. -/
def microsOf (digits : List Char) : Nat :=
  numberOf (digits.take 6) * 10 ^ (6 - (digits.take 6).length)

/-- The microseconds of a fraction are the number in its first six places, filled up with zeros. -/
theorem microsOf_eq (digits : List Char) :
    microsOf digits = valueOfDigits ((digitsOf digits ++ List.replicate 6 0).take 6) := by
  rw [valueOfDigits_padded, microsOf, numberOf, digitsOf, digitsOf, ← List.map_take,
    List.length_map]

/-- Seconds and microseconds after hours and minutes: nothing, or a colon and two digits, perhaps
with a fraction after a point or a comma. -/
inductive SpellsSeconds : Nat → Nat → List Char → Prop
  | absent : SpellsSeconds 0 0 []
  | whole {second : Nat} : SpellsSeconds second 0 (':' :: fixedDigits 2 second)
  | parted {second : Nat} {mark : Char} {digits : List Char} (isMark : mark = '.' ∨ mark = ',')
    (some : digits ≠ []) (areDigits : IsDigits digits) :
    SpellsSeconds second (microsOf digits) (':' :: fixedDigits 2 second ++ mark :: digits)

/-- The hours and minutes of an offset, with or without a colon between them. -/
inductive SpellsSize (hours minutes : Nat) : List Char → Prop
  | joined : SpellsSize hours minutes (fixedDigits 2 hours ++ fixedDigits 2 minutes)
  | parted : SpellsSize hours minutes (fixedDigits 2 hours ++ ':' :: fixedDigits 2 minutes)

/-- A sign in front of a size, and the minutes that they stand for together. -/
inductive Signs (size : Nat) : Char → Int → Prop
  | ahead : Signs size '+' size
  | behind {sign : Char} (isSign : sign = '-' ∨ sign = minusSign) : Signs size sign (-size)

/-- An offset at the end of a text: nothing, a letter for universal time, or a sign with hours and
minutes. -/
inductive SpellsOffset : Option Offset → List Char → Prop
  | absent : SpellsOffset none []
  | universal {mark : Char} (isMark : mark = 'Z' ∨ mark = 'z') : SpellsOffset (some .utc) [mark]
  | signed {sign : Char} {hours minutes : Nat} {offset : Offset} {size : List Char}
    (hoursFit : hours < 24) (minutesFit : minutes < 60)
    (signs : Signs (hours * 60 + minutes) sign offset.minutes)
    (spells : SpellsSize hours minutes size) : SpellsOffset (some offset) (sign :: size)

/-- What the narrow reader takes for a date, or for a date and a time. -/
inductive Spells : Moment → List Char → Prop
  | day (date : Date) : Spells (.naive (.atMidnight date)) date.isoCharacters
  | time (date : Date) (time : TimeOfDay) {offset : Option Offset} {separator : Char}
    {seconds ending : List Char} (separates : isSeparator separator = true)
    (spellsSeconds : SpellsSeconds time.second time.micro seconds)
    (spellsOffset : SpellsOffset offset ending) :
    Spells ⟨⟨date, time⟩, offset⟩ (date.isoCharacters ++ separator :: (fixedDigits 2 time.hour ++
      ':' :: (fixedDigits 2 time.minute ++ (seconds ++ ending))))

/-! ## What is taken spells what it is taken for -/

theorem eq_cons_of_skip? {expected : Char} {characters rest : List Char}
    (skipped : skip? expected characters = some rest) : characters = expected :: rest := by
  cases characters with
  | nil => cases skipped
  | cons character others =>
    rw [skip?] at skipped
    split at skipped
    · next same =>
      cases skipped
      rw [same]
    · cases skipped

/-- A date that is taken stands in front as it is written. -/
theorem eq_isoCharacters_of_takeDate? {characters rest : List Char} {date : Date}
    (taken : takeDate? characters = some (date, rest)) :
    characters = date.isoCharacters ++ rest := by
  unfold takeDate? at taken
  obtain ⟨⟨year, afterYear⟩, yearRead, onMonth⟩ := Option.bind_eq_some_iff.mp taken
  obtain ⟨beforeMonth, firstMark, fromMonth⟩ := Option.bind_eq_some_iff.mp onMonth
  obtain ⟨⟨month, afterMonth⟩, monthRead, onDay⟩ := Option.bind_eq_some_iff.mp fromMonth
  obtain ⟨beforeDay, secondMark, fromDay⟩ := Option.bind_eq_some_iff.mp onDay
  obtain ⟨⟨day, afterDay⟩, dayRead, onDate⟩ := Option.bind_eq_some_iff.mp fromDay
  obtain ⟨found, named, same⟩ := Option.bind_eq_some_iff.mp onDate
  cases same
  obtain ⟨rfl, rfl, rfl⟩ := Date.of?_eq_some_iff.mp named
  rw [(readDigits?_eq_some_iff.mp yearRead).2, eq_cons_of_skip? firstMark,
    (readDigits?_eq_some_iff.mp monthRead).2, eq_cons_of_skip? secondMark,
    (readDigits?_eq_some_iff.mp dayRead).2]
  simp [Date.isoCharacters]

/-- The digits of a fraction are those in front. -/
theorem spells_of_takeFraction {characters : List Char}
    (first : characters.head?.any Char.isDigit = true) :
    ∃ digits, digits ≠ [] ∧ IsDigits digits ∧ (takeFraction characters).1 = microsOf digits ∧
      characters = digits ++ (takeFraction characters).2 := by
  refine ⟨characters.takeWhile Char.isDigit, ?_, ?_, ?_, List.takeWhile_append_dropWhile.symm⟩
  · cases characters with
    | nil => cases first
    | cons character others =>
      rw [List.head?_cons, Option.any_some] at first
      rw [List.takeWhile_cons_of_pos first]
      exact List.cons_ne_nil _ _
  · exact fun _ present => List.mem_takeWhile_imp present
  · rw [microsOf, numberOf, valueOfDigits, digitsOf, List.foldl_map]
    rfl

/-- Seconds that are taken after a colon are spelled by what is taken. -/
theorem spells_of_takeSeconds? {characters rest : List Char} {second micro : Nat}
    (taken : takeSeconds? characters = some (second, micro, rest)) :
    ∃ seconds, SpellsSeconds second micro seconds ∧ ':' :: characters = seconds ++ rest := by
  unfold takeSeconds? at taken
  obtain ⟨⟨value, after⟩, secondRead, onFraction⟩ := Option.bind_eq_some_iff.mp taken
  rw [(readDigits?_eq_some_iff.mp secondRead).2]
  dsimp only at onFraction
  split at onFraction
  · cases onFraction
    exact ⟨_, .whole, rfl⟩
  · next mark fraction =>
    split at onFraction
    · next isMark =>
      split at onFraction
      · next first =>
        cases onFraction
        obtain ⟨digits, some, areDigits, same, shape⟩ := spells_of_takeFraction first
        rw [same]
        refine ⟨_, .parted isMark some areDigits, ?_⟩
        change _ = ':' :: (fixedDigits 2 second ++ mark :: digits ++ _)
        rw [List.append_assoc, List.cons_append, ← shape]
      · cases onFraction
    · cases onFraction
      exact ⟨_, .whole, rfl⟩

/-- A time that is taken stands in front as hours, minutes and what spells its seconds. -/
theorem spells_of_takeTime? {characters rest : List Char} {time : TimeOfDay}
    (taken : takeTime? characters = some (time, rest)) :
    ∃ seconds, SpellsSeconds time.second time.micro seconds ∧
      characters = fixedDigits 2 time.hour ++
        ':' :: (fixedDigits 2 time.minute ++ (seconds ++ rest)) := by
  unfold takeTime? at taken
  obtain ⟨⟨hour, afterHour⟩, hourRead, onMark⟩ := Option.bind_eq_some_iff.mp taken
  obtain ⟨beforeMinute, mark, onMinute⟩ := Option.bind_eq_some_iff.mp onMark
  obtain ⟨⟨minute, afterMinute⟩, minuteRead, onSeconds⟩ := Option.bind_eq_some_iff.mp onMinute
  rw [(readDigits?_eq_some_iff.mp hourRead).2, eq_cons_of_skip? mark,
    (readDigits?_eq_some_iff.mp minuteRead).2]
  dsimp only at onSeconds
  split at onSeconds
  · obtain ⟨⟨second, micro, after⟩, secondsTaken, onTime⟩ := Option.bind_eq_some_iff.mp onSeconds
    obtain ⟨found, named, same⟩ := Option.bind_eq_some_iff.mp onTime
    cases same
    obtain ⟨rfl, rfl, rfl, rfl⟩ := TimeOfDay.of?_eq_some_iff.mp named
    obtain ⟨seconds, spells, shape⟩ := spells_of_takeSeconds? secondsTaken
    exact ⟨seconds, spells, by rw [shape]⟩
  · obtain ⟨found, named, same⟩ := Option.bind_eq_some_iff.mp onSeconds
    cases same
    obtain ⟨rfl, rfl, noSecond, noMicro⟩ := TimeOfDay.of?_eq_some_iff.mp named
    rw [noSecond, noMicro]
    exact ⟨[], .absent, rfl⟩

/-- The size of an offset is spelled by the whole of the text that it is read from. -/
theorem spells_of_readOffsetSize? {characters : List Char} {size : Int}
    (read : readOffsetSize? characters = some size) :
    ∃ hours minutes, minutes < 60 ∧ size = Int.ofNat (hours * 60 + minutes) ∧
      SpellsSize hours minutes characters := by
  unfold readOffsetSize? at read
  obtain ⟨⟨hours, afterHours⟩, hoursRead, onMinutes⟩ := Option.bind_eq_some_iff.mp read
  obtain ⟨⟨minutes, after⟩, minutesRead, onSize⟩ := Option.bind_eq_some_iff.mp onMinutes
  dsimp only at minutesRead onSize
  split at onSize
  · next whole =>
    cases onSize
    obtain ⟨nothing, small⟩ := whole
    have ended : after = [] := List.isEmpty_iff.mp nothing
    have spelled := (readDigits?_eq_some_iff.mp minutesRead).2
    rw [ended, List.append_nil] at spelled
    refine ⟨hours, minutes, small, rfl, ?_⟩
    rw [(readDigits?_eq_some_iff.mp hoursRead).2]
    split at spelled
    · rw [spelled]
      exact .parted
    · rw [spelled]
      exact .joined
  · cases onSize

/-- An offset is spelled by the text that it is read from. -/
theorem spells_of_readOffset? {characters : List Char} {offset : Option Offset}
    (read : readOffset? characters = some offset) : SpellsOffset offset characters := by
  unfold readOffset? at read
  split at read
  · cases read
    exact .absent
  · split at read
    · next isMark =>
      cases read
      exact .universal isMark
    · cases read
  · next sign rest _ =>
    obtain ⟨size, sizeRead, onMinutes⟩ := Option.bind_eq_some_iff.mp read
    obtain ⟨hours, minutes, small, rfl, spells⟩ := spells_of_readOffsetSize? sizeRead
    obtain ⟨signed, isSigned, onOffset⟩ : ∃ signed, Signs (hours * 60 + minutes) sign signed ∧
        ((Offset.of? signed).bind fun found => some (some found)) = some offset := by
      dsimp only at onMinutes
      split at onMinutes
      · next plus =>
        rw [plus]
        exact ⟨_, .ahead, onMinutes⟩
      · split at onMinutes
        · next minus => exact ⟨_, .behind minus, onMinutes⟩
        · cases onMinutes
    obtain ⟨found, named, same⟩ := Option.bind_eq_some_iff.mp onOffset
    cases same
    obtain rfl := Offset.of?_eq_some_iff.mp named
    have hoursFit : hours < 24 := by
      have bound := found.less_than_day
      generalize found.minutes = total at isSigned bound
      cases isSigned <;> omega
    exact .signed hoursFit small isSigned spells

/-- What the narrow reader accepts has the strict form of what it is read as. -/
theorem spells_of_readMoment? {characters : List Char} {moment : Moment}
    (read : readMoment? characters = some moment) : Spells moment characters := by
  unfold readMoment? at read
  obtain ⟨⟨date, afterDate⟩, dateTaken, onTime⟩ := Option.bind_eq_some_iff.mp read
  rw [eq_isoCharacters_of_takeDate? dateTaken]
  dsimp only at onTime
  split at onTime
  · cases onTime
  · split at onTime
    · next separates =>
      obtain ⟨⟨time, afterTime⟩, timeTaken, onOffset⟩ := Option.bind_eq_some_iff.mp onTime
      obtain ⟨offset, offsetRead, same⟩ := Option.bind_eq_some_iff.mp onOffset
      cases same
      obtain ⟨seconds, spellsSeconds, shape⟩ := spells_of_takeTime? timeTaken
      rw [shape]
      exact .time date time separates spellsSeconds (spells_of_readOffset? offsetRead)
    · cases onTime

theorem spells_of_readDate? {characters : List Char} {date : Date}
    (read : readDate? characters = some date) :
    Spells (.naive (.atMidnight date)) characters := by
  unfold readDate? at read
  split at read
  · next found taken =>
    cases read
    rw [eq_isoCharacters_of_takeDate? taken, List.append_nil]
    exact .day date
  · cases read

/-! ## The characters of a text -/

/-- The marks that stand in dates, times and offsets. -/
def marks : List Char := [':', '.', ',', 'Z', 'z', '+', '-', minusSign]

/-- The characters that separate a date and a time. -/
def separators : List Char := ['T', 't', ' ', '_']

theorem mem_separators_of_isSeparator {character : Char}
    (separates : isSeparator character = true) : character ∈ separators := by
  simpa [isSeparator, separators, or_assoc] using separates

/-- Whether a text is made of digits and marks. -/
def IsPlain (characters : List Char) : Prop :=
  ∀ character ∈ characters, character.isDigit = true ∨ character ∈ marks

@[simp] theorem isPlain_nil : IsPlain [] := fun _ present => nomatch present

@[simp] theorem isPlain_cons {character : Char} {rest : List Char} :
    IsPlain (character :: rest) ↔
      (character.isDigit = true ∨ character ∈ marks) ∧ IsPlain rest :=
  List.forall_mem_cons

@[simp] theorem isPlain_append {front back : List Char} :
    IsPlain (front ++ back) ↔ IsPlain front ∧ IsPlain back :=
  List.forall_mem_append

theorem isPlain_of_isDigits {characters : List Char} (digits : IsDigits characters) :
    IsPlain characters :=
  fun _ present => .inl (digits _ present)

@[simp] theorem isPlain_fixedDigits (width value : Nat) : IsPlain (fixedDigits width value) :=
  isPlain_of_isDigits (isDigits_fixedDigits width value)

theorem isPlain_isoCharacters (date : Date) : IsPlain date.isoCharacters := by
  simp [Date.isoCharacters, marks]

theorem isPlain_of_spellsSeconds {second micro : Nat} {characters : List Char}
    (spells : SpellsSeconds second micro characters) : IsPlain characters := by
  cases spells with
  | absent => simp
  | whole => simp [marks]
  | parted isMark some areDigits =>
    rcases isMark with rfl | rfl <;> simp [marks, isPlain_of_isDigits areDigits]

theorem isPlain_of_spellsOffset {offset : Option Offset} {characters : List Char}
    (spells : SpellsOffset offset characters) : IsPlain characters := by
  cases spells with
  | absent => simp
  | universal isMark => rcases isMark with rfl | rfl <;> simp [marks]
  | @signed sign _ _ offset _ _ _ signs spells =>
    have isMark : sign ∈ marks := by
      generalize offset.minutes = total at signs
      cases signs with
      | ahead => decide
      | behind minus => rcases minus with rfl | rfl <;> decide
    have colon : ':' ∈ marks := by decide
    cases spells <;> simp [isMark, colon]

/-- What follows the separator of date and time is made of digits and marks. -/
theorem isPlain_clock (hour minute : Nat) {second micro : Nat} {offset : Option Offset}
    {seconds ending : List Char} (spellsSeconds : SpellsSeconds second micro seconds)
    (spellsOffset : SpellsOffset offset ending) :
    IsPlain (fixedDigits 2 hour ++ ':' :: (fixedDigits 2 minute ++ (seconds ++ ending))) := by
  simp [isPlain_of_spellsSeconds spellsSeconds, isPlain_of_spellsOffset spellsOffset, marks]

/-- What holds of digits, marks and separators holds of all characters of a strict text. -/
theorem forall_of_spells {property : Char → Prop}
    (digits : ∀ character, character.isDigit = true → property character)
    (others : ∀ character ∈ marks ++ separators, property character) {moment : Moment}
    {characters : List Char} (spells : Spells moment characters) :
    ∀ character ∈ characters, property character := by
  have plain : ∀ {part : List Char}, IsPlain part → ∀ character ∈ part, property character :=
    fun isPlain character present => (isPlain character present).elim (digits character)
      fun isMark => others character (List.mem_append_left _ isMark)
  cases spells with
  | day date => exact plain (isPlain_isoCharacters date)
  | time date time separates spellsSeconds spellsOffset =>
    refine List.forall_mem_append.mpr ⟨plain (isPlain_isoCharacters date),
      List.forall_mem_cons.mpr ⟨?_, plain (isPlain_clock _ _ spellsSeconds spellsOffset)⟩⟩
    exact others _ (List.mem_append_right _ (mem_separators_of_isSeparator separates))

/-- Digits and marks are not blank. -/
theorem IsPlain.isBlank_eq_false {characters : List Char} {character : Char}
    (plain : IsPlain characters) (present : character ∈ characters) :
    isBlank character = false := by
  rcases plain character present with isDigit | isMark
  · exact isBlank_of_isDigit isDigit
  · have unblank : ∀ mark ∈ marks, isBlank mark = false :=
      List.all_iff_forall_prop.mp (by decide)
    exact unblank character isMark

/-- A text of strict form begins with a digit and has a hyphen later on. -/
theorem exists_digit_of_spells {moment : Moment} {characters : List Char}
    (spells : Spells moment characters) :
    ∃ digit others, characters = digit :: others ∧ digit.isDigit = true ∧ '-' ∈ others := by
  have ofYear (date : Date) (rest : List Char) : ∃ digit others,
      date.isoCharacters ++ rest = digit :: others ∧ digit.isDigit = true ∧ '-' ∈ others := by
    have areDigits := isDigits_fixedDigits 4 date.year
    rw [Date.isoCharacters]
    cases year : fixedDigits 4 date.year with
    | nil => cases year
    | cons digit others =>
      rw [year] at areDigits
      exact ⟨digit, _, rfl, areDigits digit List.mem_cons_self, by simp⟩
  cases spells with
  | day date => simpa using ofYear date []
  | time date => exact ofYear date _

/-- A strict text has no blanks at its ends. -/
theorem strip_of_spells {moment : Moment} {characters : List Char}
    (spells : Spells moment characters) : strip isBlank characters = characters := by
  have front : ∀ first, characters.head? = some first → isBlank first = false := by
    obtain ⟨digit, others, rfl, isDigit, _⟩ := exists_digit_of_spells spells
    intro first leads
    cases leads
    exact isBlank_of_isDigit isDigit
  cases spells with
  | day date =>
    refine strip_eq_self front fun last ends => ?_
    exact (isPlain_isoCharacters date).isBlank_eq_false (List.mem_of_getLast? ends)
  | time date time separates spellsSeconds spellsOffset =>
    refine strip_eq_self front fun last ends => ?_
    have clockPlain := isPlain_clock time.hour time.minute spellsSeconds spellsOffset
    generalize clock : fixedDigits 2 time.hour ++ ':' :: _ = back at clockPlain ends
    have nonempty : back ≠ [] := by simp [← clock]
    rw [List.append_cons, List.getLast?_append, List.getLast?_eq_some_getLast nonempty] at ends
    cases ends
    exact clockPlain.isBlank_eq_false (List.getLast_mem nonempty)

end StrictText

end SheetIntake.Calendar
