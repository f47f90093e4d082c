import SheetIntake.Proofs.Calendar.UnixText
import SheetIntake.Proofs.Decimal.FloatFraction

/-!
# Unix times with a fraction

Digits behind the point are added to a float one after the other. However many there are, the sum is
not less than one and only a few more than the digits before the point. Without digits behind the
point nothing is added, and the number counts as it does without the point.
-/

namespace SheetIntake.Calendar.UnixTime

open SheetIntake.Decimal SheetIntake.Text

theorem unpack_ten :
    (10.0 : Float).toModel.unpack = .finite .positive (5 * 2 ^ 50) (-49) (by decide) := rfl

theorem unpack_million :
    (1000000.0 : Float).toModel.unpack = .finite .positive (15625 * 2 ^ 39) (-33) (by decide) := rfl

theorem two_pow_le_wholes {bits more : Nat} (few : bits ≤ more + onePlace) :
    2 ^ bits ≤ 2 ^ more * unitsOfOne := by
  rw [unitsOfOne, ← Nat.pow_add]
  exact Nat.pow_le_pow_right (by decide) few

/-! ## Adding digits -/

theorem log2_digit_le {digit : Nat} (small : digit ≤ 9) : (digit * unitsOfOne).log2 ≤ 1077 := by
  by_cases none : digit = 0
  · rw [none, Nat.zero_mul]
    decide
  · have few : digit.log2 < 4 := (Nat.log2_lt none).mpr (by omega)
    have place := onePlace_eq
    rw [unitsOfOne, log2_mul_power none]
    omega

/-- What a digit adds, by how far its unit has grown. -/
theorem below_digit {digit least most : Nat} {unit : Float} (small : digit ≤ 9)
    (above : isAbove least unit.toModel.unpack = true) (some : 1 ≤ most)
    (bound : 2152 ≤ most + least) (fits : most < 2098) : Below most (Float.ofNat digit / unit) := by
  have digits := log2_digit_le small
  exact below_div (worth_ofNat (by omega)) above some (by omega) fits

/-- What one digit does to the sum. While `left` is not zero the sum grows by two at most; when it
is zero the unit is so great that nothing is added. -/
theorem exists_worth_of_digit {digit left low units : Nat} {total unit : Float} (small : digit ≤ 9)
    (worth : Worth total units) (least : unitsOfOne ≤ units) (most : units ≤ low * unitsOfOne)
    (few : low ≤ 2 ^ 50) (above : isAbove (1137 - 3 * left) unit.toModel.unpack = true)
    (early : left ≤ 20) :
    ∃ sum, Worth (total + Float.ofNat digit / unit) sum ∧ unitsOfOne ≤ sum ∧
      sum ≤ (low + 2 * (left - (left - 1))) * unitsOfOne := by
  have place := onePlace_eq
  have within {more : Nat} (bound : more ≤ 2 * unitsOfOne) :
      units + more ≤ (low + 2) * unitsOfOne := by
    rw [Nat.add_mul]
    exact Nat.add_le_add most bound
  have beyond : (low + 2) * unitsOfOne < (2 ^ 53 - 1) * unitsOfOne :=
    Nat.mul_lt_mul_of_pos_right (by omega) unitsOfOne_pos
  cases left with
  | zero =>
    obtain ⟨more, part, partMost⟩ := @below_digit digit _ 1015 unit small above (by decide)
      (by decide) (by decide)
    have partBelow := Nat.le_trans partMost (@two_pow_le_wholes 1015 1 (by omega))
    obtain ⟨sum, sumWorth, stays, bounded⟩ := exists_worth_of_add worth part least
      (by decide : 1015 ≤ 1020) (Nat.lt_of_le_of_lt (within partBelow) beyond)
    exact ⟨sum, sumWorth, stays, bounded low most (.inr partMost)⟩
  | succ left =>
    obtain ⟨more, part, partMost⟩ := @below_digit digit _ 1075 unit small above (by decide)
      (by omega) (by decide)
    have partBelow := Nat.le_trans partMost (@two_pow_le_wholes 1075 1 (by omega))
    obtain ⟨sum, sumWorth, stays, bounded⟩ := exists_worth_of_add worth part least
      (by decide : 0 ≤ 1020) (Nat.lt_of_le_of_lt (within partBelow) beyond)
    have next : low + 2 * (left + 1 - (left + 1 - 1)) = low + 2 := by omega
    rw [next]
    exact ⟨sum, sumWorth, stays, bounded (low + 2)
      (Nat.le_trans (Nat.le_add_right _ _) (within partBelow)) (.inl (within partBelow))⟩

/-- The sum with all digits behind the point. -/
theorem exists_worth_of_addFraction? {places : List Char} {total unit sum : Float}
    {left low high units : Nat} (worth : Worth total units) (least : unitsOfOne ≤ units)
    (most : units ≤ low * unitsOfOne) (room : low + 2 * left ≤ high) (few : high ≤ 2 ^ 50)
    (above : isAbove (1137 - 3 * left) unit.toModel.unpack = true) (early : left ≤ 20)
    (added : addFraction? total unit places = some sum) :
    ∃ units, Worth sum units ∧ unitsOfOne ≤ units ∧ units ≤ high * unitsOfOne := by
  induction places generalizing total unit left low units with
  | nil =>
    cases added
    exact ⟨units, worth, least, Nat.le_trans most (Nat.mul_le_mul_right _ (by omega))⟩
  | cons character rest inductionHypothesis =>
    unfold addFraction? at added
    split at added
    · next digit read =>
      have small : digit ≤ 9 := Nat.le_of_lt_succ (asciiDigitValue?_lt_ten read)
      have next := isAbove_mul unpack_ten (by decide) (by decide : ((3 : Nat) : Int) = _) above
      obtain ⟨units, sumWorth, stays, bounded⟩ :=
        exists_worth_of_digit small worth least most (by omega) above early
      exact @inductionHypothesis _ _ (left - 1) _ units sumWorth stays bounded (by omega)
        (isAbove_mono next (by omega)) (by omega) added
    · cases added

/-! ## The moment of a float -/

/-- The microseconds of a float are those of its fraction. They are none for a whole number. -/
theorem exists_micro_of_ofFloat? {number : Float} {units : Nat} {moment : Moment}
    (worth : Worth number units) (found : ofFloat? number = some moment) :
    ∃ micro, ofNumber? (units / unitsOfOne : Nat) micro = some moment ∧ micro ≤ 2 ^ 22 ∧
      ∀ whole, units = whole * unitsOfOne → micro = 0 := by
  obtain ⟨rest, restWorth, restMost, restZero⟩ := exists_worth_of_fractionPart worth
  obtain ⟨product, productWorth, productMost, productZero⟩ :
      ∃ product, Worth (fraction number * 1000000.0) product ∧ product ≤ 2 ^ (1075 + 19 + 2) ∧
        (rest = 0 → product = 0) := by
    by_cases none : rest = 0
    · rw [none] at restWorth
      exact ⟨0, worth_zero_mul restWorth unpack_million, Nat.zero_le _, fun _ => rfl⟩
    · obtain ⟨product, worth, most⟩ :=
      @below_mul (fraction number) _ _ _ _ unpack_million (by decide)
        19 (by decide) 1075 ⟨rest, restWorth, restMost⟩ (by decide)
      exact ⟨product, worth, most, fun same => absurd same none⟩
  have onePlace := onePlace_eq
  have seconds := Nat.le_trans productMost (@two_pow_le_wholes _ 22 (by omega))
  obtain ⟨mantissa, place, _, product_eq, parts⟩ := exists_exact_of_worth productWorth
  have twice : 0 < 2 * unitsOfOne := Nat.mul_pos (by decide) unitsOfOne_pos
  refine ⟨(2 * product + unitsOfOne) / (2 * unitsOfOne), ?_, ?_, fun whole same => ?_⟩
  · unfold ofFloat? at found
    rw [floor?_of_worth worth, Option.bind_eq_bind, Option.bind_some, parts] at found
    dsimp only at found
    rwa [roundHalfUp_of_place, ← product_eq] at found
  · refine Nat.le_of_lt_succ ((Nat.div_lt_iff_lt_mul twice).mpr ?_)
    have one := unitsOfOne_pos
    omega
  · rw [productZero (restZero whole same)]
    exact Nat.div_eq_of_lt (by omega)

section

variable {whole tail : List Char} {moment : Moment} (counts : Counts whole tail moment)

include counts

/-- A number with nothing behind its point counts seconds or milliseconds. -/
theorem micros_of_counts (plain : tail = [] ∨ tail = ['.']) (short : numberOf whole < 2 ^ 53) :
    moment.clock.micros = epochMicros + countedMicros (numberOf whole) := by
  cases counts with
  | integer found => exact micros_of_ofNumber? found
  | float added found =>
    obtain ⟨rfl⟩ := List.cons.inj (plain.resolve_left (List.cons_ne_nil _ _)) |>.2
    cases added
    obtain ⟨micro, found, _, none⟩ := exists_micro_of_ofFloat? (worth_ofNat short) found
    rw [Nat.mul_div_cancel _ unitsOfOne_pos, none _ rfl] at found
    exact micros_of_ofNumber? found

/-- A number from one to ten thousand counts seconds of the first day, whatever is behind its
point. -/
theorem micros_bounds_of_counts (positive : 1 ≤ numberOf whole) (few : numberOf whole < 10000) :
    epochMicros < moment.clock.micros ∧ moment.clock.micros < epochMicros + 86400 * 1000000 := by
  have limit : secondsLimit = 20000000000 := rfl
  cases counts with
  | integer found =>
    have place := micros_of_ofNumber?_of_le (by omega) found
    omega
  | float added found =>
    have above : isAbove (1137 - 3 * 20) (10.0 : Float).toModel.unpack = true := by decide
    obtain ⟨units, worth, least, most⟩ :=
      @exists_worth_of_addFraction? _ _ _ _ 20 (numberOf whole) 10040 _
        (worth_ofNat (by omega)) (Nat.le_mul_of_pos_left _ positive) (Nat.le_refl _) (by omega)
        (by decide) above (by decide) added
    obtain ⟨micro, found, small, _⟩ := exists_micro_of_ofFloat? worth found
    have floorLeast : 1 ≤ units / unitsOfOne := by
      rwa [Nat.le_div_iff_mul_le unitsOfOne_pos, Nat.one_mul]
    have floorMost : units / unitsOfOne ≤ 10040 := by
      rw [← Nat.mul_div_cancel 10040 unitsOfOne_pos]
      exact Nat.div_le_div_right most
    have place := micros_of_ofNumber?_of_le (by omega) found
    omega

end

end SheetIntake.Calendar.UnixTime
