import SheetIntake.Proofs.Decimal.FloatBounds
import SheetIntake.Proofs.Decimal.FloatSum

/-!
# Whole part and fraction

The floor of a float is the quotient of its units by those of one, and what it has behind its whole
part is a float that is nothing for a whole number and never much more than one.
-/

namespace SheetIntake.Decimal

open Float.Model Float.Model.UnpackedFloat

/-! ## Decimal fractions -/

theorem parts_eq_zero {parts : UnpackedFloat} {units : Nat} (worth : PartsWorth parts units)
    (none : units = 0) : parts = .zero .positive := by
  cases worth with
  | zero => rfl
  | finite positive =>
    exact absurd none (Nat.mul_ne_zero (Nat.ne_of_gt positive) (Nat.ne_of_gt (Nat.two_pow_pos _)))

theorem worth_pack_zero : Worth (.ofModel (Float.Model.pack (.zero .positive))) 0 := .zero

/-- Zero divided by a positive number is zero. -/
theorem worth_zero_div {dividend divisor : Float} {least : Nat} (worth : Worth dividend 0)
    (above : isAbove least divisor.toModel.unpack = true) : Worth (dividend / divisor) 0 := by
  change Worth (.ofModel (Float.Model.pack
    (UnpackedFloat.div Format.binary64 dividend.toModel.unpack divisor.toModel.unpack))) 0
  rw [parts_eq_zero worth rfl]
  generalize divisor.toModel.unpack = right at above ⊢
  unfold isAbove at above
  split at above
  · exact worth_pack_zero
  · exact worth_pack_zero
  · cases above

/-- Zero times a positive number is zero. -/
theorem worth_zero_mul {left right : Float} {size : Nat} {exponent : Int} {positive : 0 < size}
    (worth : Worth left 0)
    (parts : right.toModel.unpack = .finite .positive size exponent positive) :
    Worth (left * right) 0 := by
  change Worth (.ofModel (Float.Model.pack
    (UnpackedFloat.mul Format.binary64 left.toModel.unpack right.toModel.unpack))) 0
  rw [parts_eq_zero worth rfl, parts]
  exact worth_pack_zero

theorem isAbove_powersOfTen :
    ∀ (places : Nat) (_ : places < Float.exactlyRepresentablePowersOfTen.size),
      isAbove ((10 ^ places).log2 + 1074)
        Float.exactlyRepresentablePowersOfTen[places].toModel.unpack = true := by
  decide

section

variable {numerator places : Nat} (less : numerator < 10 ^ places)

include less

theorem log2_le_of_fraction (nonzero : numerator ≠ 0) : numerator.log2 ≤ (10 ^ places).log2 :=
  (Nat.le_log2 (by omega)).mpr (Nat.le_trans (Nat.log2_self_le nonzero) (Nat.le_of_lt less))

/-- Digits that are few enough are divided by a power of ten from the table. -/
theorem exists_worth_of_shortFraction {power : Float} (short : numerator < 2 ^ 53)
    (above : isAbove ((10 ^ places).log2 + 1074) power.toModel.unpack = true) :
    ∃ units, Worth (numerator.toUInt64.toFloat / power) units ∧ units ≤ 2 ^ 1075 ∧
      (numerator = 0 → units = 0) := by
  have whole := worth_toFloat short
  by_cases none : numerator = 0
  · have nothing : numerator * unitsOfOne = 0 := by rw [none, Nat.zero_mul]
    rw [nothing] at whole
    exact ⟨0, worth_zero_div whole above, Nat.zero_le _, fun _ => rfl⟩
  · have first : (numerator * unitsOfOne).log2 = numerator.log2 + onePlace := by
      rw [unitsOfOne, log2_mul_power none]
    have few := log2_le_of_fraction less none
    have place := onePlace_eq
    obtain ⟨units, worth, bound⟩ := @below_div _ _ _ _ 1075 whole above (by decide)
      (by omega) (by decide)
    exact ⟨units, worth, bound, fun same => absurd same none⟩

/-- Any digits are divided by a power of ten that is not rounded itself. -/
theorem exists_worth_of_longFraction :
    ∃ units, Worth (.ofModel (Float.Model.ofScientific numerator (Int.negOfNat places))) units ∧
      units ≤ 2 ^ 1075 ∧ (numerator = 0 → units = 0) := by
  rw [Float.Model.ofScientific, UnpackedFloat.ofScientific]
  by_cases none : numerator = 0
  · rw [dif_pos none]
    exact ⟨0, worth_pack_zero, Nat.zero_le _, fun _ => rfl⟩
  · have some : places ≠ 0 := by
      rintro rfl
      exact none (Nat.lt_one_iff.mp less)
    have notBeyond : ¬ Int.negOfNat places > 2 ^ Format.binary64.exponentBits := by
      rw [Int.negOfNat_eq]
      change ¬ (2 ^ 11 : Int) < -(places : Int)
      omega
    have negative : ¬ 0 ≤ Int.negOfNat places := by
      rw [Int.negOfNat_eq]
      change ¬ (0 : Int) ≤ -(places : Int)
      omega
    rw [dif_neg none, if_neg notBeyond, if_neg negative]
    split
    · exact ⟨0, worth_pack_zero, Nat.zero_le _, fun _ => rfl⟩
    · have amount : (-Int.negOfNat places).toNat = places := by
        rw [Int.negOfNat_eq]
        change (-(-(places : Int))).toNat = places
        omega
      have few := log2_le_of_fraction less none
      obtain ⟨units, worth, bound⟩ := @exists_units_of_div numerator (10 ^ places) 0 0
        (Nat.pos_of_ne_zero none) (Nat.pow_pos (by decide)) 1075 (by decide) (by omega)
      obtain ⟨units, worth, bound⟩ := below_pack worth bound (by decide)
      refine ⟨units, ?_, bound, fun same => absurd same none⟩
      simp only [amount]
      exact worth

/-- A decimal fraction is read as a float that is not much more than one, and as zero when all its
digits are zeros. -/
theorem exists_worth_of_fraction :
    ∃ units, Worth (Float.ofScientific numerator true places) units ∧ units ≤ 2 ^ 1075 ∧
      (numerator = 0 → units = 0) := by
  unfold Float.ofScientific
  split
  · next short =>
    exact exists_worth_of_shortFraction less short.1
      (isAbove_powersOfTen places (Nat.lt_succ_of_le short.2))
  · exact exists_worth_of_longFraction less

end

/-! ## Quotients of units -/

/-- The exact value of a float is the quotient of its units by those of one. -/
theorem ofBinary_of_place (mantissa place : Nat) :
    (Quotient.ofBinary mantissa (place - 1074)).numerator * unitsOfOne =
      mantissa * 2 ^ place * (Quotient.ofBinary mantissa (place - 1074)).denominator ∧
    0 < (Quotient.ofBinary mantissa (place - 1074)).denominator := by
  have last := onePlace_eq
  unfold Quotient.ofBinary
  split
  · have amount : ((place : Int) - 1074).toNat = place - onePlace := by omega
    refine ⟨?_, Nat.one_pos⟩
    dsimp only
    rw [amount, power, Nat.pow_eq, unitsOfOne, Nat.mul_assoc, ← Nat.pow_add, Nat.mul_one,
      Nat.sub_add_cancel (by omega)]
  · have amount : (-((place : Int) - 1074)).toNat = onePlace - place := by omega
    refine ⟨?_, power_pos (by decide) _⟩
    dsimp only
    rw [amount, power, Nat.pow_eq, unitsOfOne, Nat.mul_assoc, ← Nat.pow_add,
      Nat.add_sub_cancel' (by omega)]

theorem floor_of_place (mantissa place : Nat) :
    (Quotient.ofBinary mantissa (place - 1074)).floor = mantissa * 2 ^ place / unitsOfOne := by
  obtain ⟨same, positive⟩ := ofBinary_of_place mantissa place
  generalize Quotient.ofBinary mantissa (place - 1074) = quotient at same positive
  rw [Quotient.floor, ← Nat.mul_div_mul_right _ _ unitsOfOne_pos, same, Nat.mul_comm _ unitsOfOne,
    Nat.mul_div_mul_right _ _ positive]

theorem roundHalfUp_of_place (mantissa place : Nat) :
    (Quotient.ofBinary mantissa (place - 1074)).roundHalfUp =
      (2 * (mantissa * 2 ^ place) + unitsOfOne) / (2 * unitsOfOne) := by
  obtain ⟨same, positive⟩ := ofBinary_of_place mantissa place
  generalize Quotient.ofBinary mantissa (place - 1074) = quotient at same positive
  have numerator : (2 * quotient.numerator + quotient.denominator) * unitsOfOne =
      (2 * (mantissa * 2 ^ place) + unitsOfOne) * quotient.denominator := by
    rw [Nat.add_mul, Nat.mul_assoc, same, Nat.add_mul, Nat.mul_assoc 2,
      Nat.mul_comm quotient.denominator]
  have denominator : 2 * quotient.denominator * unitsOfOne =
      2 * unitsOfOne * quotient.denominator := Nat.mul_right_comm _ _ _
  rw [Quotient.roundHalfUp, ← Nat.mul_div_mul_right _ _ unitsOfOne_pos, numerator, denominator,
    Nat.mul_div_mul_right _ _ positive]

theorem floor?_of_worth {value : Float} {units : Nat} (worth : Worth value units) :
    floor? value = some ((units / unitsOfOne : Nat) : Int) := by
  obtain ⟨mantissa, place, _, rfl, parts⟩ := exists_exact_of_worth worth
  rw [floor?, parts]
  dsimp only
  rw [floor_of_place]
  rfl

/-! ## The fraction of a float -/

theorem worth_point_zero : Worth 0.0 0 := by
  have parts : (0.0 : Float).toModel.unpack = .zero .positive := rfl
  rw [Worth, parts]
  exact .zero

/-- What a float has behind its whole part is not much more than one, and nothing for a whole
number. -/
theorem exists_worth_of_fractionPart {value : Float} {units : Nat} (worth : Worth value units) :
    ∃ rest, Worth (fraction value) rest ∧ rest ≤ 2 ^ 1075 ∧
      ∀ whole, units = whole * unitsOfOne → rest = 0 := by
  obtain ⟨mantissa, place, _, units_eq, parts⟩ := exists_exact_of_worth worth
  have last := onePlace_eq
  unfold fraction
  rw [parts]
  dsimp only
  split
  · exact ⟨0, worth_point_zero, Nat.zero_le _, fun _ _ => rfl⟩
  · have amount : (-((place : Int) - 1074)).toNat = onePlace - place := by omega
    rw [amount]
    have less : mantissa % power 2 (onePlace - place) * power 5 (onePlace - place) <
        10 ^ (onePlace - place) := by
      have base : (10 : Nat) = 2 * 5 := rfl
      rw [base, Nat.mul_pow]
      exact Nat.mul_lt_mul_of_pos_right (Nat.mod_lt _ (power_pos (by decide) _))
        (power_pos (by decide) _)
    obtain ⟨rest, worth, bound, none⟩ := exists_worth_of_fraction less
    refine ⟨rest, worth, bound, fun whole same => none ?_⟩
    have multiple : mantissa = whole * 2 ^ (onePlace - place) := by
      refine Nat.eq_of_mul_eq_mul_right (Nat.two_pow_pos place) ?_
      rw [← units_eq, same, unitsOfOne, Nat.mul_assoc, ← Nat.pow_add,
        Nat.sub_add_cancel (by omega)]
    rw [multiple, power, Nat.pow_eq, Nat.mul_mod_left, Nat.zero_mul]

end SheetIntake.Decimal
