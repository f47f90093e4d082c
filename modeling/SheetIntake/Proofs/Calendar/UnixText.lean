import SheetIntake.Calendar.UnixTime
import SheetIntake.Proofs.Calendar.Ordinal
import SheetIntake.Proofs.Decimal.NumeralText

/-!
# Texts of Unix times

A text that is taken for a Unix time is a numeral, perhaps behind a sign. Without a point it stands
for whole seconds or milliseconds; with one the digits are added to a float one after the other.
Whatever is read lies in the year 1600 or later.
-/

namespace SheetIntake.Calendar.UnixTime

open SheetIntake.Decimal SheetIntake.Text

/-- A moment that is found by its seconds stands at their place. -/
theorem micros_of_ofSeconds? {seconds : Int} {micro : Nat} {moment : Moment}
    (found : ofSeconds? seconds micro = some moment) :
    moment.clock.micros = epochMicros + seconds * 1000000 + micro ∧ earliest ≤ seconds := by
  unfold ofSeconds? at found
  split at found
  · next within =>
    obtain ⟨clock, placed, rfl⟩ := Option.map_eq_some_iff.mp found
    exact ⟨DateTime.ofMicros?_eq_some_iff.mp placed, within.1⟩
  · cases found

/-- A number that is not above the limit counts seconds, to which microseconds are added. -/
theorem micros_of_ofNumber?_of_le {number micro : Nat} {moment : Moment}
    (few : number ≤ secondsLimit) (found : ofNumber? number micro = some moment) :
    moment.clock.micros = epochMicros + number * 1000000 + micro := by
  unfold ofNumber? at found
  rw [Int.natAbs_natCast, if_pos few] at found
  obtain ⟨place, _⟩ := micros_of_ofSeconds? found
  rw [place]
  simp only [Int.ofNat_eq_natCast]
  omega

/-- The microseconds that a number counts. Up to the limit it counts seconds, above it
milliseconds. -/
def countedMicros (number : Nat) : Nat :=
  if number ≤ secondsLimit then number * 1000000 else number * 1000

theorem micros_of_ofNumber? {number : Nat} {moment : Moment}
    (found : ofNumber? number 0 = some moment) :
    moment.clock.micros = epochMicros + countedMicros number := by
  unfold countedMicros
  by_cases few : number ≤ secondsLimit
  · rw [if_pos few, micros_of_ofNumber?_of_le few found, Nat.cast_mul]
    exact Int.add_zero _
  · unfold ofNumber? at found
    rw [Int.natAbs_natCast, if_neg few] at found
    dsimp only at found
    obtain ⟨place, _⟩ := micros_of_ofSeconds? found
    have thousand : (0 : Int) ≤ 1000 := by decide
    have million : (0 : Int) ≤ 1000000 := by decide
    rw [if_neg few, place]
    simp only [Int.ofNat_eq_natCast, Nat.cast_zero, Int.add_zero,
      Int.fdiv_eq_ediv_of_nonneg _ thousand, Int.fmod_eq_emod_of_nonneg _ thousand,
      Int.fdiv_eq_ediv_of_nonneg _ million, Int.fmod_eq_emod_of_nonneg _ million]
    omega

/-- Every moment that is found lies after the start of 1600. -/
theorem earliest_le_of_ofNumber? {number : Int} {micro : Nat} {moment : Moment}
    (found : ofNumber? number micro = some moment) :
    epochMicros + earliest * 1000000 ≤ moment.clock.micros := by
  unfold ofNumber? at found
  split at found
  · obtain ⟨place, early⟩ := micros_of_ofSeconds? found
    omega
  · obtain ⟨place, early⟩ := micros_of_ofSeconds? found
    omega

theorem earliest_le_of_ofFloat? {number : Float} {moment : Moment}
    (found : ofFloat? number = some moment) :
    epochMicros + earliest * 1000000 ≤ moment.clock.micros := by
  obtain ⟨whole, _, last⟩ := Option.bind_eq_some_iff.mp found
  split at last
  · exact earliest_le_of_ofNumber? last
  · cases last
  · cases last

/-! ## The form of a text -/

theorem exists_digits_of_takeInteger? {total size : Nat} {characters rest : List Char}
    (taken : takeInteger? total characters = some (size, rest)) :
    ∃ digits, IsDigits digits ∧ characters = digits ++ rest ∧
      size = total * 10 ^ digits.length + numberOf digits := by
  induction characters generalizing total with
  | nil =>
    cases taken
    exact ⟨[], nofun, rfl, by simp [numberOf, digitsOf, valueOfDigits]⟩
  | cons character others inductionHypothesis =>
    unfold takeInteger? at taken
    split at taken
    · next digit read =>
      split at taken
      · obtain ⟨digits, areDigits, rfl, rfl⟩ := inductionHypothesis taken
        have isDigit : character.isDigit = true := by
          by_contra other
          rw [asciiDigitValue?_eq_none (Bool.eq_false_of_not_eq_true other)] at read
          cases read
        rw [asciiDigitValue?_of_isDigit isDigit] at read
        cases read
        refine ⟨character :: digits, List.forall_mem_cons.mpr ⟨isDigit, areDigits⟩, rfl, ?_⟩
        have first : numberOf [character] = character.toNat - '0'.toNat := by
          simp [numberOf, digitsOf, valueOfDigits]
        rw [← List.singleton_append, numberOf_append, first, List.length_append,
          List.length_singleton, Nat.pow_add]
        ring
      · cases taken
    · cases taken
      exact ⟨[], nofun, rfl, by simp [numberOf, digitsOf, valueOfDigits]⟩

/-- Only digits are added behind the point. -/
theorem isDigits_of_addFraction? {total unit sum : Float} {places : List Char}
    (added : addFraction? total unit places = some sum) : IsDigits places := by
  induction places generalizing total unit with
  | nil => exact nofun
  | cons character rest inductionHypothesis =>
    unfold addFraction? at added
    split at added
    · next digit read =>
      refine List.forall_mem_cons.mpr ⟨?_, inductionHypothesis added⟩
      by_contra other
      rw [asciiDigitValue?_eq_none (Bool.eq_false_of_not_eq_true other)] at read
      cases read
    · cases added

/-- The number that a numeral without a minus sign stands for, by the digits before its point and
what follows them. -/
inductive Counts (whole : List Char) : List Char → Moment → Prop
  | integer {moment : Moment} (found : ofNumber? (numberOf whole) 0 = some moment) :
    Counts whole [] moment
  | float {places : List Char} {total : Float} {moment : Moment}
    (added : addFraction? (Float.ofNat (numberOf whole)) 10.0 places = some total)
    (found : ofFloat? total = some moment) : Counts whole ('.' :: places) moment

/-- A text that is taken for a Unix time is a numeral, and without a minus sign its moment is the
one that the numeral counts. -/
theorem exists_numeral_of_ofText? {characters : List Char} {moment : Moment}
    (read : ofText? characters = some moment) :
    ∃ negative whole tail, takeSign characters = (negative, whole ++ tail) ∧ IsNumeral whole tail ∧
      epochMicros + earliest * 1000000 ≤ moment.clock.micros ∧
      (negative = false → Counts whole tail moment) := by
  unfold ofText? at read
  generalize takeSign characters = parts at read ⊢
  obtain ⟨negative, unsigned⟩ := parts
  dsimp only at read
  split at read
  · cases read
  · next begins =>
    obtain ⟨⟨size, rest⟩, taken, onRest⟩ := Option.bind_eq_some_iff.mp read
    obtain ⟨whole, areDigits, rfl, same⟩ := exists_digits_of_takeInteger? taken
    rw [Nat.zero_mul, Nat.zero_add] at same
    subst same
    have present (stops : rest.head?.bind asciiDigitValue? = none) : whole ≠ [] := by
      rintro rfl
      rw [List.nil_append, stops] at begins
      exact begins rfl
    dsimp only at onRest
    split at onRest
    · refine ⟨negative, whole, [], rfl, ⟨present rfl, areDigits, .inl rfl⟩, ?_, ?_⟩
      · exact earliest_le_of_ofNumber? onRest
      · rintro rfl
        exact .integer onRest
    · next places =>
      obtain ⟨total, added, found⟩ := Option.bind_eq_some_iff.mp onRest
      refine ⟨negative, whole, '.' :: places, rfl, ⟨present rfl, areDigits,
        .inr ⟨places, isDigits_of_addFraction? added, rfl⟩⟩, ?_, ?_⟩
      · exact earliest_le_of_ofFloat? found
      · rintro rfl
        exact .float added found
    · cases onRest

end SheetIntake.Calendar.UnixTime
