import SheetIntake.Proofs.Decimal.FloatRounding

/-!
# Bounds on products and quotients

A product or quotient of floats is bounded by powers of two of units, from below and from above. The
bounds are coarse, but they are enough to see that digits far behind the point add nothing to a sum.
-/

namespace SheetIntake.Decimal

open Float.Model Float.Model.UnpackedFloat

/-- Whether parts are positive and at least a power of two of units, infinity included. -/
def isAbove (least : Nat) : UnpackedFloat → Bool
  | .infinity .positive => true
  | .finite .positive mantissa exponent _ => (least : Int) ≤ mantissa.log2 + exponent + 1074
  | _ => false

/-- Whether a float is not negative and at most a power of two of units. -/
def Below (most : Nat) (value : Float) : Prop :=
  ∃ units, Worth value units ∧ units ≤ 2 ^ most

theorem isAbove_mono {least lower : Nat} {parts : UnpackedFloat}
    (above : isAbove least parts = true)
    (less : lower ≤ least) : isAbove lower parts = true := by
  unfold isAbove at above ⊢
  split at above
  · rfl
  · simp only [decide_eq_true_eq] at above ⊢
    omega
  · cases above

theorem isAbove_of_worth {parts : UnpackedFloat} {units least : Nat}
    (worth : PartsWorth parts units)
    (nonzero : units ≠ 0) (bound : least ≤ units.log2) : isAbove least parts = true := by
  cases worth with
  | zero => exact absurd rfl nonzero
  | @finite mantissa place positive short full =>
    rw [log2_mul_power (Nat.ne_of_gt positive)] at bound
    simp only [isAbove, decide_eq_true_eq]
    omega

/-- A float that is packed from parts is above what the parts are above, also when it becomes
infinite. -/
theorem isAbove_pack {parts : UnpackedFloat} {units least : Nat} (worth : PartsWorth parts units)
    (nonzero : units ≠ 0) (bound : least ≤ units.log2) :
    isAbove least (Float.Model.pack parts).unpack = true := by
  by_cases fits : units.log2 < 2098
  · exact isAbove_of_worth (worth_pack worth fits) nonzero bound
  · rw [unpack_pack_infinite worth (Nat.not_lt.mp fits)]
    rfl

theorem below_pack {parts : UnpackedFloat} {units most : Nat} (worth : PartsWorth parts units)
    (bound : units ≤ 2 ^ most) (fits : most < 2098) :
    Below most (.ofModel (Float.Model.pack parts)) := by
  refine ⟨units, worth_pack worth ?_, bound⟩
  by_cases none : units = 0
  · rw [none]
    decide
  · refine Nat.lt_of_le_of_lt ?_ fits
    exact Nat.le_of_lt_succ ((Nat.log2_lt none).mpr
      (Nat.lt_of_le_of_lt bound (Nat.pow_lt_pow_right (by decide) (Nat.lt_succ_self _))))

/-- Zero is below every bound. -/
theorem below_pack_zero (most : Nat) : Below most (.ofModel (Float.Model.pack (.zero .positive))) :=
  ⟨0, .zero, Nat.zero_le _⟩

/-- What is rounded has some units, and keeps to the powers of two around it. -/
theorem exists_units_of_round {mantissa : Nat} {exponent : Int}
    (fits : 52 ≤ mantissa.log2 ∨ exponent ≤ -1074) (accuracy : Accuracy) :
    ∃ units, PartsWorth (roundWithAccuracy Format.binary64 .positive mantissa exponent accuracy)
        units ∧
      (mantissa ≠ 0 → ∀ least : Nat, (least : Int) ≤ mantissa.log2 + exponent + 1074 →
        units ≠ 0 ∧ least ≤ units.log2) ∧
      ∀ most : Nat, (mantissa.log2 : Int) + exponent + 1075 ≤ most → units ≤ 2 ^ most := by
  obtain ⟨place, placed⟩ : ∃ place : Nat,
      (place : Int) - 1074 = max (mantissa.log2 + exponent - 52) (-1074) :=
    ⟨(max (mantissa.log2 + exponent - 52) (-1074) + 1074).toNat, by omega⟩
  obtain ⟨shift, shifted⟩ : ∃ shift : Nat, exponent + shift = (place : Int) - 1074 :=
    ⟨((place : Int) - 1074 - exponent).toNat, by omega⟩
  have nonzero : mantissa ≠ 0 ∨ place = 0 := by
    by_cases none : mantissa = 0
    · rw [none, Nat.log2_zero] at fits placed
      omega
    · exact .inl none
  obtain ⟨rounded, worth, least, most, _⟩ := exists_worth_of_round placed shifted nonzero accuracy
  exact ⟨rounded * 2 ^ place, worth,
    fun nonzero _ above => le_log2_of_round placed shifted nonzero least above,
    fun _ below => le_power_of_round placed shifted most below⟩

/-! ## Products -/

theorem log2_mul_bounds {left right : Nat} (leftNonzero : left ≠ 0) (rightNonzero : right ≠ 0) :
    left.log2 + right.log2 ≤ (left * right).log2 ∧
      (left * right).log2 ≤ left.log2 + right.log2 + 1 := by
  have nonzero : left * right ≠ 0 := Nat.mul_ne_zero leftNonzero rightNonzero
  constructor
  · rw [Nat.le_log2 nonzero, Nat.pow_add]
    exact Nat.mul_le_mul (Nat.log2_self_le leftNonzero) (Nat.log2_self_le rightNonzero)
  · refine Nat.le_of_lt_succ ((Nat.log2_lt nonzero).mpr ?_)
    have split : 2 ^ (left.log2 + right.log2 + 1 + 1) =
        2 ^ (left.log2 + 1) * 2 ^ (right.log2 + 1) := by
      rw [← Nat.pow_add]
      congr 1
      omega
    rw [Nat.succ_eq_add_one, split]
    exact Nat.mul_lt_mul'' Nat.lt_log2_self Nat.lt_log2_self

section

variable {value factor : Float} {size : Nat} {exponent : Int} {positive : 0 < size}
  (parts : factor.toModel.unpack = .finite .positive size exponent positive) (long : 2 ^ 52 ≤ size)
  {gain : Nat} (gains : (gain : Int) = size.log2 + exponent)

include parts long gains

/-- Multiplying by a factor raises a lower bound by the place of its first digit. -/
theorem isAbove_mul {lower : Nat} (above : isAbove lower value.toModel.unpack = true) :
    isAbove (lower + gain) (value * factor).toModel.unpack = true := by
  change isAbove _ (Float.Model.pack
    (UnpackedFloat.mul Format.binary64 value.toModel.unpack factor.toModel.unpack)).unpack = true
  rw [parts]
  generalize value.toModel.unpack = left at above ⊢
  unfold isAbove at above
  split at above
  · change isAbove _ (Float.Model.pack (.infinity .positive)).unpack = true
    have infinite : (Float.Model.pack (.infinity .positive)).unpack = .infinity .positive := rfl
    rw [infinite]
    rfl
  · next mantissa place leftPositive =>
    rw [decide_eq_true_eq] at above
    obtain ⟨first, _⟩ := log2_mul_bounds (Nat.ne_of_gt leftPositive) (Nat.ne_of_gt positive)
    have digits : 52 ≤ size.log2 := (Nat.le_log2 (Nat.ne_of_gt positive)).mpr long
    have nonzero : mantissa * size ≠ 0 :=
      Nat.mul_ne_zero (Nat.ne_of_gt leftPositive) (Nat.ne_of_gt positive)
    obtain ⟨units, worth, least, _⟩ := @exists_units_of_round (mantissa * size) (place + exponent)
      (.inl (by omega)) .exact
    obtain ⟨unitsNonzero, bound⟩ := least nonzero (lower + gain) (by push_cast; omega)
    exact isAbove_pack worth unitsNonzero bound
  · cases above

/-- Multiplying by a factor raises an upper bound by two places more. -/
theorem below_mul {most : Nat} (below : Below most value) (fits : most + gain + 2 < 2098) :
    Below (most + gain + 2) (value * factor) := by
  obtain ⟨units, worth, bound⟩ := below
  change Below _ (.ofModel (Float.Model.pack
    (UnpackedFloat.mul Format.binary64 value.toModel.unpack factor.toModel.unpack)))
  unfold Worth at worth
  rw [parts]
  generalize value.toModel.unpack = left at worth ⊢
  cases worth with
  | zero => exact below_pack_zero _
  | @finite mantissa place leftPositive short full =>
    have leftNonzero := Nat.ne_of_gt leftPositive
    obtain ⟨first, last⟩ := log2_mul_bounds leftNonzero (Nat.ne_of_gt positive)
    have digits : 52 ≤ size.log2 := (Nat.le_log2 (Nat.ne_of_gt positive)).mpr long
    have leftDigits : mantissa.log2 + place ≤ most := by
      rw [← log2_mul_power leftNonzero, ← Nat.log2_two_pow (n := most)]
      refine (Nat.le_log2 (Nat.ne_of_gt (Nat.two_pow_pos most))).mpr (Nat.le_trans ?_ bound)
      exact Nat.log2_self_le (Nat.mul_ne_zero leftNonzero (Nat.ne_of_gt (Nat.two_pow_pos place)))
    obtain ⟨units, worth, _, greatest⟩ := @exists_units_of_round (mantissa * size)
      (place - 1074 + exponent) (.inl (by omega)) .exact
    exact below_pack worth (greatest _ (by push_cast; omega)) fits

end

/-! ## Quotients -/

/-- The first digit of a quotient of natural numbers is no farther to the left than those of both
numbers allow. -/
theorem quotient_log2_le {left right shift : Nat} (leftPositive : 0 < left)
    (rightPositive : 0 < right)
    (nonzero : left * 2 ^ shift / right ≠ 0) :
    (left * 2 ^ shift / right).log2 + right.log2 ≤ left.log2 + shift := by
  have leftNonzero := Nat.ne_of_gt leftPositive
  have product : left * 2 ^ shift / right * right ≤ left * 2 ^ shift := Nat.div_mul_le_self _ _
  obtain ⟨first, _⟩ := log2_mul_bounds nonzero (Nat.ne_of_gt rightPositive)
  refine Nat.le_trans first ?_
  rw [← log2_mul_power leftNonzero, Nat.le_log2 (Nat.mul_ne_zero leftNonzero
    (Nat.ne_of_gt (Nat.two_pow_pos shift)))]
  exact Nat.le_trans (Nat.log2_self_le (Nat.mul_ne_zero nonzero (Nat.ne_of_gt rightPositive)))
    product

/-- A number that is shifted far enough to the left has a quotient of fifty-three digits. -/
theorem le_quotient {left right shift : Nat} (leftPositive : 0 < left) (rightPositive : 0 < right)
    (far : right.log2 + 53 ≤ left.log2 + shift) : 2 ^ 52 ≤ left * 2 ^ shift / right := by
  rw [Nat.le_div_iff_mul_le rightPositive]
  calc 2 ^ 52 * right
      ≤ 2 ^ 52 * 2 ^ (right.log2 + 1) := Nat.mul_le_mul_left _ (Nat.le_of_lt Nat.lt_log2_self)
    _ = 2 ^ (right.log2 + 53) := by
        rw [← Nat.pow_add]
        congr 1
        omega
    _ ≤ 2 ^ (left.log2 + shift) := Nat.pow_le_pow_right (by decide) far
    _ = 2 ^ left.log2 * 2 ^ shift := Nat.pow_add _ _ _
    _ ≤ left * 2 ^ shift := Nat.mul_le_mul_right _ (Nat.log2_self_le (Nat.ne_of_gt leftPositive))

/-- The quotient of two proper numbers is below the power of two that their first digits give. -/
theorem exists_units_of_div {left right : Nat} {leftExponent rightExponent : Int}
    (leftPositive : 0 < left) (rightPositive : 0 < right) {most : Nat} (some : 1 ≤ most)
    (bound : (left.log2 : Int) + leftExponent - (right.log2 + rightExponent) + 1075 ≤ most) :
    ∃ units, PartsWorth (UnpackedFloat.div Format.binary64
        (.finite .positive left leftExponent leftPositive)
        (.finite .positive right rightExponent rightPositive)) units ∧ units ≤ 2 ^ most := by
  obtain ⟨target, target_eq⟩ : ∃ target, target = min (leftExponent - rightExponent)
      (max (left.log2 + leftExponent - (right.log2 + rightExponent) - 53) (-1074)) := ⟨_, rfl⟩
  obtain ⟨shift, shift_eq⟩ : ∃ shift : Nat, leftExponent - rightExponent - target = shift :=
    ⟨(leftExponent - rightExponent - target).toNat, by omega⟩
  have core : divCore Format.binary64 left leftExponent right rightExponent =
      (left * 2 ^ shift / right, target, accuracyOfFraction (left * 2 ^ shift % right) right) := by
    have same : Format.binary64.targetExponent
        (totalExponent left leftExponent - totalExponent right rightExponent) =
          max (left.log2 + leftExponent - (right.log2 + rightExponent) - 53) (-1074) := by
      change max ((left.log2 : Int) + 1 + leftExponent - (right.log2 + 1 + rightExponent) - 53)
        (-1074) = _
      omega
    have amount : (leftExponent - rightExponent - target).toNat = shift := by omega
    simp only [divCore, same, ← target_eq, amount, Nat.shiftLeft_eq]
  -- Unless the quotient is taken down to the last place, it has fifty-three digits.
  have fits : 52 ≤ (left * 2 ^ shift / right).log2 ∨ target ≤ -1074 := by
    by_cases last : target ≤ -1074
    · exact .inr last
    · left
      have long := @le_quotient left right shift leftPositive rightPositive (by omega)
      exact (Nat.le_log2 (by omega)).mpr long
  obtain ⟨units, worth, _, greatest⟩ := exists_units_of_round fits
    (accuracyOfFraction (left * 2 ^ shift % right) right)
  refine ⟨units, ?_, greatest most ?_⟩
  · change PartsWorth (match divCore Format.binary64 left leftExponent right rightExponent with
      | (mantissa, exponent, accuracy) =>
        roundWithAccuracy Format.binary64 .positive mantissa exponent accuracy) units
    rw [core]
    exact worth
  · by_cases none : left * 2 ^ shift / right = 0
    · rw [none, Nat.log2_zero] at fits ⊢
      omega
    · have digits := quotient_log2_le leftPositive rightPositive none
      omega

/-- A quotient is below the power of two that bounds on both numbers give. -/
theorem below_div {dividend divisor : Float} {units least most : Nat} (worth : Worth dividend units)
    (above : isAbove least divisor.toModel.unpack = true)
    (some : 1 ≤ most) (bound : units.log2 + 1075 ≤ most + least) (fits : most < 2098) :
    Below most (dividend / divisor) := by
  change Below _ (.ofModel (Float.Model.pack
    (UnpackedFloat.div Format.binary64 dividend.toModel.unpack divisor.toModel.unpack)))
  unfold Worth at worth
  generalize dividend.toModel.unpack = left at worth ⊢
  generalize divisor.toModel.unpack = right at above ⊢
  unfold isAbove at above
  split at above
  · cases worth with
    | zero => exact below_pack_zero most
    | finite => exact below_pack_zero most
  · next size exponent positive =>
    rw [decide_eq_true_eq] at above
    cases worth with
    | zero => exact below_pack_zero most
    | @finite mantissa place leftPositive short full =>
      rw [log2_mul_power (Nat.ne_of_gt leftPositive)] at bound
      obtain ⟨units, worth, greatest⟩ :=
        @exists_units_of_div mantissa size (place - 1074) exponent leftPositive positive most some
          (by omega)
      exact below_pack worth greatest fits
  · cases above

end SheetIntake.Decimal
