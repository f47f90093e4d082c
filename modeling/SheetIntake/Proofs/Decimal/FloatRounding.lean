import SheetIntake.Proofs.Decimal.FloatUnits

/-!
# Rounding in units

Rounding keeps the first fifty-three binary digits of a number, or those down to the last place.
Here it is followed in units of the least float: what is kept is one of the two neighbours, the
nearer one when the number is known exactly, and rounding never crosses a power of two.
-/

namespace SheetIntake.Decimal

open Float.Model Float.Model.UnpackedFloat

/-- Without a round bit the mantissa stays. -/
theorem roundedMantissa_of_noRound {extended : ExtendedMantissa}
    (noRound : extended.roundBit = false) :
    extended.roundedMantissa = extended.mantissa := by
  obtain ⟨mantissa, roundBit, stickyBit⟩ := extended
  subst noRound
  cases stickyBit <;> rfl

theorem mantissa_ofMantissaAndAccuracy (mantissa : Nat) (accuracy : Accuracy) :
    (ExtendedMantissa.ofMantissaAndAccuracy mantissa accuracy).mantissa = mantissa := by
  cases accuracy with
  | exact => rfl
  | inexact order => cases order <;> rfl

/-- An exact number that is not above halfway to the next one is rounded down. -/
theorem roundedMantissa_le {mantissa shift bound : Nat}
    (near : 2 * mantissa < (2 * bound + 1) * 2 ^ shift) :
    (ExtendedMantissa.ofMantissaAndAccuracy mantissa .exact >>> shift).roundedMantissa ≤ bound := by
  have kept : (ExtendedMantissa.ofMantissaAndAccuracy mantissa .exact >>> shift).mantissa =
      mantissa / 2 ^ shift := mantissa_shiftRight _ shift
  have most := (roundedMantissa_bounds
    (ExtendedMantissa.ofMantissaAndAccuracy mantissa .exact >>> shift)).2
  have below : mantissa / 2 ^ shift < bound + 1 := by
    rw [Nat.div_lt_iff_lt_mul (Nat.two_pow_pos shift)]
    have half : (2 * bound + 1) * 2 ^ shift ≤ 2 * ((bound + 1) * 2 ^ shift) := by
      rw [← Nat.mul_assoc]
      exact Nat.mul_le_mul_right _ (by omega)
    omega
  rcases Nat.lt_succ_iff_lt_or_eq.mp below with less | same
  · omega
  · have noRound : (ExtendedMantissa.ofMantissaAndAccuracy mantissa .exact >>> shift).roundBit =
        false := by
      cases shift with
      | zero => rfl
      | succ shift =>
        have halves : mantissa / 2 ^ shift < 2 * bound + 1 := by
          rw [Nat.div_lt_iff_lt_mul (Nat.two_pow_pos shift)]
          rw [Nat.pow_succ, ← Nat.mul_assoc] at near
          omega
        have even : mantissa / 2 ^ shift / 2 = bound := by
          rwa [Nat.div_div_eq_div_mul, ← Nat.pow_succ]
        rw [roundBit_shiftRight]
        change (mantissa / 2 ^ shift % 2 != 0) = false
        rw [bne_eq_false_iff_eq]
        omega
    rw [roundedMantissa_of_noRound noRound, kept]
    exact Nat.le_of_eq same

section

variable {mantissa place shift : Nat} {exponent : Int}
  (placed : (place : Int) - 1074 = max (mantissa.log2 + exponent - 52) (-1074))
  (shifted : exponent + shift = place - 1074)

include placed shifted

theorem shifted_lt : mantissa / 2 ^ shift < 2 ^ 53 := by
  rw [Nat.div_lt_iff_lt_mul (Nat.two_pow_pos shift), ← Nat.pow_add]
  exact Nat.lt_of_lt_of_le Nat.lt_log2_self (Nat.pow_le_pow_right (by decide) (by omega))

theorem le_shifted (some : mantissa ≠ 0) : place = 0 ∨ 2 ^ 52 ≤ mantissa / 2 ^ shift := by
  by_cases last : place = 0
  · exact .inl last
  · right
    rw [Nat.le_div_iff_mul_le (Nat.two_pow_pos shift), ← Nat.pow_add]
    exact Nat.le_trans (Nat.pow_le_pow_right (by decide) (by omega)) (Nat.log2_self_le some)

/-- A number that is rounded has the units of the mantissa that is kept, at its place. -/
theorem exists_worth_of_round (some : mantissa ≠ 0 ∨ place = 0) (accuracy : Accuracy) :
    ∃ rounded, PartsWorth
        (roundWithAccuracy Format.binary64 .positive mantissa exponent accuracy)
        (rounded * 2 ^ place) ∧
      mantissa / 2 ^ shift ≤ rounded ∧ rounded ≤ mantissa / 2 ^ shift + 1 ∧
      (accuracy = .exact → ∀ bound, 2 * mantissa < (2 * bound + 1) * 2 ^ shift →
        rounded ≤ bound) := by
  have target := targetExponent_eq mantissa exponent
  have moved : shiftToTargetExponent Format.binary64 mantissa exponent accuracy =
      (ExtendedMantissa.ofMantissaAndAccuracy mantissa accuracy >>> shift,
        (place : Int) - 1074) := by
    have amount : (max (mantissa.log2 + exponent - 52) (-1074) - exponent).toNat = shift := by omega
    simp only [shiftToTargetExponent, shiftToExponent, target, amount, shifted]
  generalize extended_eq : ExtendedMantissa.ofMantissaAndAccuracy mantissa accuracy >>> shift =
    extended at moved
  have kept : extended.mantissa = mantissa / 2 ^ shift := by
    rw [← extended_eq, mantissa_shiftRight, mantissa_ofMantissaAndAccuracy]
  obtain ⟨least, most⟩ := roundedMantissa_bounds extended
  have short := shifted_lt placed shifted
  have long : place = 0 ∨ 2 ^ 52 ≤ mantissa / 2 ^ shift :=
    some.elim (le_shifted placed shifted) .inl
  rw [kept] at least most
  refine ⟨extended.roundedMantissa, ?_, least, most, ?_⟩
  · have result : roundWithAccuracy Format.binary64 .positive mantissa exponent accuracy =
        partsOf .positive
          (Decimal.placed extended.roundedMantissa ((place : Int) - 1074)).1.mantissa
          (Decimal.placed extended.roundedMantissa ((place : Int) - 1074)).2 := by
      unfold roundWithAccuracy
      rw [moved]
      rfl
    rw [result]
    generalize extended.roundedMantissa = rounded at least most ⊢
    by_cases fits : rounded < 2 ^ 53
    · rw [placed_of_lt fits (by omega)]
      change PartsWorth (partsOf .positive rounded _) _
      by_cases none : rounded = 0
      · rw [partsOf, dif_pos none, none, Nat.zero_mul]
        exact .zero
      · rw [partsOf, dif_neg none]
        exact .finite _ fits (by omega)
    · obtain rfl : rounded = 2 ^ 53 := by omega
      obtain ⟨half, next⟩ := @placed_full ((place : Int) - 1074) (by omega)
      have later : (place : Int) - 1074 + 1 = ((place + 1 : Nat) : Int) - 1074 := by omega
      have double : 2 ^ 53 * 2 ^ place = 2 ^ 52 * 2 ^ (place + 1) := by
        rw [← Nat.pow_add, ← Nat.pow_add]
        congr 1
        omega
      rw [half, next, later, double, partsOf, dif_neg (by decide)]
      exact .finite _ (by decide) (.inl (Nat.le_refl _))
  · rintro rfl bound near
    rw [← extended_eq]
    exact roundedMantissa_le near

/-- The first digit of a number that is rounded does not move to the right. -/
theorem le_log2_of_round {rounded least : Nat} (some : mantissa ≠ 0)
    (kept : mantissa / 2 ^ shift ≤ rounded)
    (above : (least : Int) ≤ mantissa.log2 + exponent + 1074) :
    rounded * 2 ^ place ≠ 0 ∧ least ≤ (rounded * 2 ^ place).log2 := by
  have digits : 2 ^ (mantissa.log2 - shift) ≤ mantissa / 2 ^ shift := by
    rw [Nat.le_div_iff_mul_le (Nat.two_pow_pos shift), ← Nat.pow_add,
      Nat.sub_add_cancel (by omega)]
    exact Nat.log2_self_le some
  have nonzero : rounded ≠ 0 := by
    have positive := Nat.two_pow_pos (mantissa.log2 - shift)
    omega
  have place_le : mantissa.log2 - shift ≤ rounded.log2 :=
    (Nat.le_log2 nonzero).mpr (Nat.le_trans digits kept)
  refine ⟨Nat.mul_ne_zero nonzero (Nat.ne_of_gt (Nat.two_pow_pos place)), ?_⟩
  rw [log2_mul_power nonzero]
  omega

/-- Rounding does not take a number beyond the power of two that follows it. -/
theorem le_power_of_round {rounded most : Nat} (kept : rounded ≤ mantissa / 2 ^ shift + 1)
    (below : (mantissa.log2 : Int) + exponent + 1075 ≤ most) : rounded * 2 ^ place ≤ 2 ^ most := by
  have digits : rounded ≤ 2 ^ (mantissa.log2 + 1 - shift) := by
    refine Nat.le_trans kept ?_
    by_cases within : shift ≤ mantissa.log2 + 1
    · refine (Nat.div_lt_iff_lt_mul (Nat.two_pow_pos shift)).mpr ?_
      rw [← Nat.pow_add, Nat.sub_add_cancel within]
      exact Nat.lt_log2_self
    · have nothing : mantissa / 2 ^ shift = 0 := by
        refine Nat.div_eq_of_lt (Nat.lt_of_lt_of_le Nat.lt_log2_self ?_)
        exact Nat.pow_le_pow_right (by decide) (by omega)
      rw [nothing]
      exact Nat.two_pow_pos _
  calc rounded * 2 ^ place
      ≤ 2 ^ (mantissa.log2 + 1 - shift) * 2 ^ place := Nat.mul_le_mul_right _ digits
    _ = 2 ^ (mantissa.log2 + 1 - shift + place) := (Nat.pow_add _ _ _).symm
    _ ≤ 2 ^ most := Nat.pow_le_pow_right (by decide) (by omega)

end

end SheetIntake.Decimal
