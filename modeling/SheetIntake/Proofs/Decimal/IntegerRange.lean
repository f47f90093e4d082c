import Mathlib.Algebra.GroupWithZero.Nat
import SheetIntake.Proofs.Decimal.NotANumber

/-!
# Integers beyond all floats

An integer is rounded to a float by keeping its first fifty-three binary digits and counting up by
one where what is left out asks for it. The exponent that the result then has decides whether it is
finite. `ofInteger?_eq_none_iff` says for which integers it is not: for those that are as far from
zero as halfway between the greatest float and the power of two after it, or farther.
-/

namespace SheetIntake.Decimal

open Float.Model Float.Model.UnpackedFloat

/-- The place of the binary digit after the last digit of the greatest float. -/
def roundPlace : Nat := 970

/-- The number halfway between the greatest float and the power of two after it. -/
def floatLimit : Nat := (2 ^ 54 - 1) * 2 ^ roundPlace

/-- Shifting divides the mantissa. -/
theorem mantissa_shiftRight (extended : ExtendedMantissa) (places : Nat) :
    (extended >>> places).mantissa = extended.mantissa / 2 ^ places := by
  induction places with
  | zero => simp [HShiftRight.hShiftRight, Nat.repeat]
  | succ places inductionHypothesis =>
    change (extended >>> places).mantissa / 2 = _
    rw [inductionHypothesis, Nat.div_div_eq_div_mul, Nat.pow_succ]

/-- The round bit after a shift is the last digit that was shifted out. -/
theorem roundBit_shiftRight (extended : ExtendedMantissa) (places : Nat) :
    (extended >>> (places + 1)).roundBit = (extended.mantissa / 2 ^ places % 2 != 0) := by
  change ((extended >>> places).mantissa % 2 != 0) = _
  rw [mantissa_shiftRight]

theorem roundedMantissa_bounds (extended : ExtendedMantissa) :
    extended.mantissa ≤ extended.roundedMantissa ∧
      extended.roundedMantissa ≤ extended.mantissa + 1 := by
  unfold ExtendedMantissa.roundedMantissa
  cases extended.accuracy with
  | exact => simp [Accuracy.roundToNearestEven]
  | inexact order =>
    cases order with
    | lt => simp [Accuracy.roundToNearestEven]
    | eq =>
      simp only [Accuracy.roundToNearestEven]
      omega
    | gt => simp [Accuracy.roundToNearestEven]

/-- An odd mantissa is counted up exactly when the round bit is set. -/
theorem roundedMantissa_of_odd {extended : ExtendedMantissa} (odd : extended.mantissa % 2 = 1) :
    extended.roundedMantissa = extended.mantissa + if extended.roundBit then 1 else 0 := by
  obtain ⟨mantissa, roundBit, stickyBit⟩ := extended
  cases roundBit <;> cases stickyBit <;>
    simp_all [ExtendedMantissa.roundedMantissa, ExtendedMantissa.accuracy,
      Accuracy.roundToNearestEven]

/-- The exponent that a number should have keeps fifty-three digits. -/
theorem targetExponent_eq (mantissa : Nat) (exponent : Int) :
    Format.binary64.targetExponent (totalExponent mantissa exponent) =
      max (mantissa.log2 + exponent - 52) (-1074) := by
  change max ((mantissa.log2 : Int) + 1 + exponent - 53) (-1074) = _
  omega

/-- A number that is shifted to the exponent that it should have. -/
def placed (mantissa : Nat) (exponent : Int) : ExtendedMantissa × Int :=
  shiftToTargetExponent Format.binary64 mantissa exponent .exact

theorem placed_exponent (mantissa : Nat) (exponent : Int) :
    (placed mantissa exponent).2 = max exponent (max (mantissa.log2 + exponent - 52) (-1074)) := by
  simp only [placed, shiftToTargetExponent, shiftToExponent, targetExponent_eq]
  omega

theorem placed_mantissa (mantissa : Nat) (exponent : Int) :
    (placed mantissa exponent).1 = ExtendedMantissa.ofMantissaAndAccuracy mantissa .exact >>>
      (max (mantissa.log2 + exponent - 52) (-1074) - exponent).toNat := by
  simp only [placed, shiftToTargetExponent, shiftToExponent, targetExponent_eq]

/-- The mantissa that is kept has at most fifty-three digits. -/
theorem placed_mantissa_lt (mantissa : Nat) (exponent : Int) :
    (placed mantissa exponent).1.mantissa < 2 ^ 53 := by
  rw [placed_mantissa, mantissa_shiftRight]
  generalize shift : (max (mantissa.log2 + exponent - 52) (-1074) - exponent).toNat = places
  change mantissa / 2 ^ places < 2 ^ 53
  rw [Nat.div_lt_iff_lt_mul (Nat.two_pow_pos places), ← Nat.pow_add]
  refine Nat.lt_of_lt_of_le Nat.lt_log2_self (Nat.pow_le_pow_right (by decide) ?_)
  omega

/-- A number with an exponent that it can have, and at most fifty-three digits, stays in place. -/
theorem placed_of_lt {mantissa : Nat} {exponent : Int} (short : mantissa < 2 ^ 53)
    (least : -1074 ≤ exponent) :
    placed mantissa exponent = (.ofMantissaAndAccuracy mantissa .exact, exponent) := by
  have digits : mantissa.log2 ≤ 52 := by
    by_cases none : mantissa = 0
    · rw [none]
      decide
    · exact Nat.le_of_lt_succ ((Nat.log2_lt none).mpr short)
  have still : (max (mantissa.log2 + exponent - 52) (-1074) - exponent).toNat = 0 := by omega
  ext1
  · rw [placed_mantissa, still]
    rfl
  · rw [placed_exponent]
    dsimp only
    omega

/-- A number of one digit more than fifty-three is shifted once. -/
theorem placed_full {exponent : Int} (least : -1074 ≤ exponent) :
    (placed (2 ^ 53) exponent).1.mantissa = 2 ^ 52 ∧
      (placed (2 ^ 53) exponent).2 = exponent + 1 := by
  have once : (max (((2 ^ 53 : Nat).log2 : Int) + exponent - 52) (-1074) - exponent).toNat = 1 := by
    rw [Nat.log2_two_pow]
    omega
  constructor
  · rw [placed_mantissa, once]
    rfl
  · rw [placed_exponent, Nat.log2_two_pow]
    omega

/-- The parts of a number of some size and exponent. -/
def partsOf (sign : Sign) (mantissa : Nat) (exponent : Int) : UnpackedFloat :=
  if none : mantissa = 0 then .zero sign
  else .finite sign mantissa exponent (Nat.pos_of_ne_zero none)

/-- Rounding puts a number in its place, rounds it there, and shifts it once more if that gave it
one digit more. -/
theorem roundWithAccuracy_eq (sign : Sign) (mantissa : Nat) (exponent : Int) :
    roundWithAccuracy Format.binary64 sign mantissa exponent .exact =
      if (placed mantissa exponent).1.roundedMantissa < 2 ^ 53 then
        partsOf sign (placed mantissa exponent).1.roundedMantissa (placed mantissa exponent).2
      else partsOf sign (2 ^ 52) ((placed mantissa exponent).2 + 1) := by
  have least : -1074 ≤ (placed mantissa exponent).2 := by
    rw [placed_exponent]
    omega
  have most : (placed mantissa exponent).1.roundedMantissa ≤ 2 ^ 53 :=
    Nat.le_trans (roundedMantissa_bounds _).2 (placed_mantissa_lt mantissa exponent)
  change partsOf sign (placed (placed mantissa exponent).1.roundedMantissa
      (placed mantissa exponent).2).1.mantissa
    (placed (placed mantissa exponent).1.roundedMantissa (placed mantissa exponent).2).2 = _
  generalize (placed mantissa exponent).1.roundedMantissa = rounded at most ⊢
  generalize (placed mantissa exponent).2 = place at least ⊢
  split
  · next short =>
    rw [placed_of_lt short least]
    rfl
  · next full =>
    obtain rfl : rounded = 2 ^ 53 := by omega
    obtain ⟨size, next⟩ := placed_full least
    rw [size, next]

/-- A float is finite when its scale is not the greatest. -/
theorem isFinite_iff (value : Float) :
    isFinite value = true ↔ @unpackExponent Format.binary64 value.toBits.toBitVec ≠ -1#_ := by
  rw [Ne, ← scale_eq_iff, isFinite, Exact.ofFloat]
  by_cases greatest : value.toBits.toNat / power 2 52 % power 2 11 = 2047
  · rw [if_pos greatest]
    by_cases none : value.toBits.toNat % power 2 52 = 0
    · simp [none, greatest]
    · simp [none, greatest]
  · rw [if_neg greatest]
    by_cases least : value.toBits.toNat / power 2 52 % power 2 11 = 0
    · simp [least]
    · simp [least, greatest]

/-- A proper number is packed as an infinity when its exponent is too great. -/
theorem isFinite_pack_finite (sign : Sign) (mantissa : Nat) (exponent : Int)
    (positive : 0 < mantissa) :
    isFinite (.ofModel (Float.Model.pack (.finite sign mantissa exponent positive))) = true ↔
      exponent < 972 := by
  rw [isFinite_iff]
  change @unpackExponent Format.binary64 (UnpackedFloat.pack Format.binary64
    (.finite sign mantissa exponent positive)) ≠ _ ↔ _
  unfold UnpackedFloat.pack
  dsimp only
  split
  · next beyond =>
    change 2048 ≤ (exponent + 1023 + 52).toNat + 1 at beyond
    rw [packedInfinity, unpackExponent_packComponents]
    exact iff_of_false (fun differs => differs rfl) (by omega)
  · next within =>
    change ¬ 2048 ≤ (exponent + 1023 + 52).toNat + 1 at within
    refine iff_of_true ?_ (by omega)
    split
    · rw [unpackExponent_packComponents, Ne, ← BitVec.toNat_inj, BitVec.toNat_ofNat]
      change ¬ (exponent + 1023 + 52).toNat % 2048 = 2047
      omega
    · rw [unpackExponent_packComponents]
      decide

theorem isFinite_pack_zero (sign : Sign) :
    isFinite (.ofModel (Float.Model.pack (.zero sign))) = true := by
  cases sign <;> decide

/-- The opposite of a finite float is finite. -/
theorem isFinite_neg {value : Float} (finite : isFinite value = true) :
    isFinite (-value) = true := by
  rw [isFinite_iff] at finite
  have scale : (@unpackExponent Format.binary64 value.toBits.toBitVec).toNat < 2047 := by
    have bound := (@unpackExponent Format.binary64 value.toBits.toBitVec).isLt
    change _ < 2048 at bound
    have differs : (@unpackExponent Format.binary64 value.toBits.toBitVec).toNat ≠ 2047 :=
      fun same => finite (BitVec.eq_of_toNat_eq same)
    omega
  change isFinite (.ofModel (Float.Model.pack
    (UnpackedFloat.unpack Format.binary64 value.toBits.toBitVec).neg)) = true
  unfold UnpackedFloat.unpack
  rw [if_neg finite]
  by_cases least : @unpackExponent Format.binary64 value.toBits.toBitVec = 0#_
  · rw [if_pos least]
    by_cases none : @unpackMantissa Format.binary64 value.toBits.toBitVec = 0#_
    · rw [dif_pos none]
      exact isFinite_pack_zero _
    · rw [dif_neg none]
      have lowest : (@unpackExponent Format.binary64 value.toBits.toBitVec).toNat = 0 := by
        rw [least]
        rfl
      refine (isFinite_pack_finite _ _ _ _).mpr ?_
      change ((@unpackExponent Format.binary64 value.toBits.toBitVec).toNat : Int) -
        (1023 + 52) + 1 < 972
      omega
  · rw [if_neg least]
    refine (isFinite_pack_finite _ _ _ _).mpr ?_
    change ((@unpackExponent Format.binary64 value.toBits.toBitVec).toNat : Int) -
      (1023 + 52) < 972
    omega
theorem isFinite_pack_partsOf (sign : Sign) (mantissa : Nat) (exponent : Int) :
    isFinite (.ofModel (Float.Model.pack (partsOf sign mantissa exponent))) = true ↔
      mantissa = 0 ∨ exponent < 972 := by
  by_cases none : mantissa = 0
  · rw [partsOf, dif_pos none]
    exact iff_of_true (isFinite_pack_zero sign) (.inl none)
  · rw [partsOf, dif_neg none, isFinite_pack_finite]
    exact (or_iff_right none).symm

/-- A number that is rounded is finite when its place is below the greatest, or is the greatest and
rounding does not carry over. -/
theorem isFinite_roundWithAccuracy (sign : Sign) (mantissa : Nat) (exponent : Int) :
    isFinite (.ofModel (Float.Model.pack
        (roundWithAccuracy Format.binary64 sign mantissa exponent .exact))) = true ↔
      (placed mantissa exponent).1.roundedMantissa = 0 ∨
        (placed mantissa exponent).2 < 971 ∨
        (placed mantissa exponent).2 = 971 ∧
          (placed mantissa exponent).1.roundedMantissa < 2 ^ 53 := by
  rw [roundWithAccuracy_eq]
  split
  · rw [isFinite_pack_partsOf]
    omega
  · rw [isFinite_pack_partsOf]
    omega

theorem log2_mul_power {mantissa : Nat} (positive : mantissa ≠ 0) (places : Nat) :
    (mantissa * 2 ^ places).log2 = mantissa.log2 + places := by
  have nonzero : mantissa * 2 ^ places ≠ 0 :=
    Nat.mul_ne_zero positive (Nat.ne_of_gt (Nat.two_pow_pos places))
  rw [Nat.log2_eq_iff nonzero, Nat.add_right_comm, Nat.pow_add, Nat.pow_add]
  exact ⟨Nat.mul_le_mul_right _ (Nat.log2_self_le positive),
    Nat.mul_lt_mul_of_pos_right Nat.lt_log2_self (Nat.two_pow_pos places)⟩

section

variable {whole : Nat} (long : 2 ^ 53 ≤ whole)

include long

/-- The place of a whole number of at least fifty-four digits. -/
theorem placed_exponent_of_long : (placed (whole * 2 ^ 53) (-53)).2 = whole.log2 - 52 := by
  have digits : 53 ≤ whole.log2 := (Nat.le_log2 (by omega)).mpr long
  rw [placed_exponent, log2_mul_power (by omega)]
  omega

/-- A whole number of at least fifty-four digits loses all but fifty-three of them. -/
theorem placed_mantissa_of_long :
    (placed (whole * 2 ^ 53) (-53)).1 =
      ExtendedMantissa.ofMantissaAndAccuracy (whole * 2 ^ 53) .exact >>> (whole.log2 + 1) := by
  have digits : 53 ≤ whole.log2 := (Nat.le_log2 (by omega)).mpr long
  rw [placed_mantissa, log2_mul_power (by omega)]
  congr 1
  omega

theorem roundedMantissa_pos_of_long : 0 < (placed (whole * 2 ^ 53) (-53)).1.roundedMantissa := by
  refine Nat.lt_of_lt_of_le ?_ (roundedMantissa_bounds _).1
  rw [placed_mantissa_of_long long, mantissa_shiftRight]
  refine Nat.div_pos ?_ (Nat.two_pow_pos _)
  have least := Nat.log2_self_le (n := whole) (by omega)
  change 2 ^ (whole.log2 + 1) ≤ whole * 2 ^ 53
  rw [Nat.pow_succ]
  omega

/-- Of a whole number fifty-three digits are kept, and the digit after them is the round bit. -/
theorem placed_digits_of_long {places : Nat} (last : whole.log2 = places + 53) :
    (placed (whole * 2 ^ 53) (-53)).1.mantissa = whole / 2 ^ places / 2 ∧
      (placed (whole * 2 ^ 53) (-53)).1.roundBit = (whole / 2 ^ places % 2 != 0) := by
  rw [placed_mantissa_of_long long, last, mantissa_shiftRight, roundBit_shiftRight]
  have same : whole * 2 ^ 53 / 2 ^ (places + 53) = whole / 2 ^ places := by
    rw [Nat.pow_add, Nat.mul_div_mul_right _ _ (Nat.two_pow_pos 53)]
  have next : 2 ^ (places + 53 + 1) = 2 ^ (places + 53) * 2 := Nat.pow_succ _ _
  change whole * 2 ^ 53 / 2 ^ (places + 53 + 1) = _ ∧
    (whole * 2 ^ 53 / 2 ^ (places + 53) % 2 != 0) = _
  rw [next, ← Nat.div_div_eq_div_mul, same]
  exact ⟨rfl, rfl⟩

/-- A whole number carries over exactly when its first fifty-four digits are all ones. -/
theorem roundedMantissa_lt_iff {places : Nat} (last : whole.log2 = places + 53) :
    (placed (whole * 2 ^ 53) (-53)).1.roundedMantissa < 2 ^ 53 ↔
      whole < (2 ^ 54 - 1) * 2 ^ places := by
  have below : whole / 2 ^ places < 2 ^ 54 := by
    rw [Nat.div_lt_iff_lt_mul (Nat.two_pow_pos places), ← Nat.pow_add,
      ← Nat.log2_lt (by omega), last]
    omega
  obtain ⟨kept, round⟩ := placed_digits_of_long long last
  have bounds := roundedMantissa_bounds (placed (whole * 2 ^ 53) (-53)).1
  have odd := @roundedMantissa_of_odd (placed (whole * 2 ^ 53) (-53)).1
  rw [kept] at bounds odd
  rw [round] at odd
  rw [← Nat.div_lt_iff_lt_mul (Nat.two_pow_pos places)]
  generalize whole / 2 ^ places = digits at bounds odd below ⊢
  constructor
  · intro short
    by_contra ones
    obtain rfl : digits = 2 ^ 54 - 1 := by omega
    have carried := odd (by decide)
    rw [if_pos (by decide)] at carried
    omega
  · intro small
    by_cases ones : digits / 2 = 2 ^ 53 - 1
    · obtain rfl : digits = 2 ^ 54 - 2 := by omega
      have stays := odd (by decide)
      rw [if_neg (by decide)] at stays
      omega
    · omega

theorem lt_ones_of_log2_lt {places : Nat} (fewer : whole.log2 < places + 53) :
    whole < (2 ^ 54 - 1) * 2 ^ places := by
  have below : whole < 2 ^ (places + 53) := (Nat.log2_lt (by omega)).mp fewer
  have positive := Nat.two_pow_pos places
  rw [Nat.pow_add] at below
  omega

theorem ones_le_of_lt_log2 {places : Nat} (more : places + 53 < whole.log2) :
    (2 ^ 54 - 1) * 2 ^ places ≤ whole := by
  have above : 2 ^ (places + 54) ≤ whole := (Nat.le_log2 (by omega)).mp more
  rw [Nat.pow_add] at above
  omega

/-- A whole number of at least fifty-four digits is rounded to a finite float exactly when it is
less than the limit. -/
theorem isFinite_long_iff (sign : Sign) :
    isFinite (.ofModel (Float.Model.pack
        (roundWithAccuracy Format.binary64 sign (whole * 2 ^ 53) (-53) .exact))) = true ↔
      whole < floatLimit := by
  have positive := roundedMantissa_pos_of_long long
  have place : roundPlace = 970 := rfl
  rw [isFinite_roundWithAccuracy, placed_exponent_of_long long, floatLimit]
  rcases Nat.lt_trichotomy whole.log2 (roundPlace + 53) with fewer | same | more
  · exact iff_of_true (.inr (.inl (by omega))) (lt_ones_of_log2_lt long fewer)
  · rw [roundedMantissa_lt_iff long same, same]
    omega
  · exact iff_of_false (by omega) (Nat.not_lt.mpr (ones_le_of_lt_log2 long more))

end

/-- Whether parts are zero, or those of a number with at most fifty-three digits and a small
exponent. -/
def IsSmall : UnpackedFloat → Prop
  | .zero _ => True
  | .finite _ mantissa exponent _ => mantissa < 2 ^ 53 ∧ exponent ≤ 2
  | _ => False

theorem isSmall_partsOf {mantissa : Nat} {exponent : Int} (short : mantissa < 2 ^ 53)
    (least : exponent ≤ 2) (sign : Sign) : IsSmall (partsOf sign mantissa exponent) := by
  by_cases none : mantissa = 0
  · rw [partsOf, dif_pos none]
    trivial
  · rw [partsOf, dif_neg none]
    exact ⟨short, least⟩

theorem isSmall_roundWithAccuracy {mantissa : Nat} {exponent : Int}
    (place : (placed mantissa exponent).2 ≤ 1) (sign : Sign) :
    IsSmall (roundWithAccuracy Format.binary64 sign mantissa exponent .exact) := by
  rw [roundWithAccuracy_eq]
  split
  · next short => exact isSmall_partsOf short (by omega) sign
  · exact isSmall_partsOf (by decide) (by omega) sign

/-- A whole number of at most fifty-three digits has small parts. -/
theorem isSmall_ofInt {whole : Nat} (short : whole < 2 ^ 53) :
    IsSmall (UnpackedFloat.ofInt Format.binary64 whole) := by
  unfold UnpackedFloat.ofInt UnpackedFloat.normalize
  split
  · next negative =>
    rw [Int.compare_eq_lt] at negative
    omega
  · trivial
  · next positive =>
    rw [Int.compare_eq_gt] at positive
    have nonzero : whole ≠ 0 := by omega
    have digits : whole.log2 < 53 := (Nat.log2_lt nonzero).mpr short
    unfold UnpackedFloat.round decreaseExponent
    dsimp only
    rw [targetExponent_eq, Int.toNat_natCast, Nat.shiftLeft_eq]
    apply isSmall_roundWithAccuracy
    rw [placed_exponent, log2_mul_power nonzero]
    omega

/-- The scale of small parts is far from the greatest. -/
theorem scale_of_isSmall {parts : UnpackedFloat} (small : IsSmall parts) :
    (@unpackExponent Format.binary64 (UnpackedFloat.pack Format.binary64 parts)).toNat ≤ 1077 := by
  cases parts with
  | notANumber => cases small
  | infinity sign => cases small
  | zero sign => cases sign <;> decide
  | finite sign mantissa exponent positive =>
    obtain ⟨_, least⟩ := small
    unfold UnpackedFloat.pack
    dsimp only
    split
    · next beyond =>
      change 2048 ≤ (exponent + 1023 + 52).toNat + 1 at beyond
      omega
    · split
      · rw [unpackExponent_packComponents, BitVec.toNat_ofNat]
        refine Nat.le_trans (Nat.mod_le _ _) ?_
        change (exponent + 1023 + 52).toNat ≤ 1077
        omega
      · rw [unpackExponent_packComponents]
        decide

theorem isSmall_of_scale {bits : BitVec Format.binary64.numBits}
    (scale : (unpackExponent bits).toNat ≤ 1077) :
    IsSmall (UnpackedFloat.unpack Format.binary64 bits) := by
  have notGreatest : ¬ unpackExponent bits = -1#_ := by
    intro greatest
    rw [greatest] at scale
    exact absurd scale (by decide)
  unfold UnpackedFloat.unpack
  rw [if_neg notGreatest]
  by_cases least : unpackExponent bits = 0#_
  · have lowest : (unpackExponent bits).toNat = 0 := by
      rw [least]
      rfl
    rw [if_pos least]
    by_cases none : unpackMantissa bits = 0#_
    · rw [dif_pos none]
      trivial
    · rw [dif_neg none]
      refine ⟨Nat.lt_of_lt_of_le (BitVec.isLt _) (by decide), ?_⟩
      change ((unpackExponent bits).toNat : Int) - (1023 + 52) + 1 ≤ 2
      omega
  · rw [if_neg least]
    refine ⟨Nat.lt_of_lt_of_le (BitVec.isLt _) (by decide), ?_⟩
    change ((unpackExponent bits).toNat : Int) - (1023 + 52) ≤ 2
    omega

/-- The parts of the number one. -/
def one : UnpackedFloat := .finite .positive (2 ^ 52) (-52) (by decide)

/-- A small number times one is finite. -/
theorem isFinite_mul_one {parts : UnpackedFloat} (small : IsSmall parts) :
    isFinite (.ofModel (Float.Model.pack (UnpackedFloat.mul Format.binary64 parts one))) =
      true := by
  cases parts with
  | notANumber => cases small
  | infinity sign => cases small
  | zero sign => exact isFinite_pack_zero _
  | finite sign mantissa exponent positive =>
    obtain ⟨short, least⟩ := small
    have nonzero : mantissa ≠ 0 := Nat.ne_of_gt positive
    have digits : mantissa.log2 < 53 := (Nat.log2_lt nonzero).mpr short
    refine (isFinite_roundWithAccuracy _ _ _).mpr (.inr (.inl ?_))
    rw [placed_exponent, log2_mul_power nonzero]
    omega

/-- A whole number of at most fifty-three digits is a finite float. -/
theorem isFinite_short {whole : Nat} (short : whole < 2 ^ 53) :
    isFinite (Float.ofScientific whole false 0) = true := by
  have bits : whole.toUInt64.toNat = whole := UInt64.toNat_ofNat_of_lt' (by
    change whole < 2 ^ 64
    omega)
  have power : (Float.exactlyRepresentablePowersOfTen[0]).toModel.unpack = one := rfl
  have small : IsSmall whole.toUInt64.toFloat.toModel.unpack := by
    refine isSmall_of_scale (scale_of_isSmall (isSmall_ofInt ?_))
    rw [bits]
    exact short
  rw [Float.ofScientific, dif_pos ⟨short, by decide⟩]
  dsimp only
  rw [if_neg Bool.false_ne_true]
  change isFinite (.ofModel (Float.Model.pack (UnpackedFloat.mul Format.binary64
    whole.toUInt64.toFloat.toModel.unpack
    (Float.exactlyRepresentablePowersOfTen[0]).toModel.unpack))) = true
  rw [power]
  exact isFinite_mul_one small

theorem isFinite_ofScientific_iff (whole : Nat) :
    isFinite (Float.ofScientific whole false 0) = true ↔ whole < floatLimit := by
  by_cases short : whole < 2 ^ 53
  · refine iff_of_true (isFinite_short short) (Nat.lt_of_lt_of_le short ?_)
    rw [floatLimit]
    exact Nat.le_trans (by decide) (Nat.le_mul_of_pos_right _ (Nat.two_pow_pos roundPlace))
  · have long := Nat.not_lt.mp short
    have nonzero : whole ≠ 0 := by omega
    have noUnderflow : ¬ Int.ofNat 0 <
        -((2 ^ Format.binary64.exponentBits : Int) + whole.log2) := by
      change ¬ (0 : Int) < -(2 ^ 11 + (whole.log2 : Int))
      omega
    have slow : Float.ofScientific whole false 0 = .ofModel (Float.Model.pack
        (roundWithAccuracy Format.binary64 .positive (whole * 2 ^ 53) (-53) .exact)) := by
      rw [Float.ofScientific, dif_neg (fun both => short both.1)]
      dsimp only
      rw [if_neg Bool.false_ne_true, Float.Model.ofScientific, UnpackedFloat.ofScientific,
        dif_neg nonzero, if_neg (by decide), if_neg noUnderflow, if_pos (by decide)]
      change Float.ofModel (Float.Model.pack (roundWithAccuracy Format.binary64 .positive
        (whole <<< 53 * 1) (-53) .exact)) = _
      rw [Nat.shiftLeft_eq, Nat.mul_one]
    rw [slow, isFinite_long_iff long]

/-- An integer has no nearest float exactly when it is at the limit or beyond, on either side. -/
theorem ofInteger?_eq_none_iff {whole : Int} :
    ofInteger? whole = none ↔ floatLimit ≤ whole.natAbs := by
  rw [← Nat.not_lt, ← isFinite_ofScientific_iff, ofInteger?]
  split
  · next finite => simp [finite]
  · next infinite => simp [infinite]

/-- The float nearest to an integer is finite. -/
theorem isFinite_of_ofInteger? {whole : Int} {nearest : Float}
    (found : ofInteger? whole = some nearest) : isFinite nearest = true := by
  unfold ofInteger? at found
  dsimp only at found
  split at found
  · next finite =>
    cases found
    split
    · exact isFinite_neg finite
    · exact finite
  · cases found

end SheetIntake.Decimal
