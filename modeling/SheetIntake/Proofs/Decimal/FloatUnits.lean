import Mathlib
import SheetIntake.Proofs.Decimal.IntegerRange

/-!
# Floats in units of the least one

Every finite float is a whole number of times the least positive one. For floats that are not
negative this number, `units`, is what sums and bounds are counted in: packing and unpacking keep
it, and the exact value of a float is read from it.
-/

namespace SheetIntake.Decimal

open Float.Model Float.Model.UnpackedFloat

/-- The parts of a finite float that is not negative, and how many times the least positive float it
is. The mantissa has fifty-three digits unless the place is the last one. -/
inductive PartsWorth : UnpackedFloat → Nat → Prop
  | zero : PartsWorth (.zero .positive) 0
  | finite {mantissa place : Nat} (positive : 0 < mantissa) (short : mantissa < 2 ^ 53)
    (full : 2 ^ 52 ≤ mantissa ∨ place = 0) :
    PartsWorth (.finite .positive mantissa (place - 1074) positive) (mantissa * 2 ^ place)

/-- Whether a float is finite, is not negative, and is so many times the least positive float. -/
def Worth (value : Float) (units : Nat) : Prop :=
  PartsWorth value.toModel.unpack units

/-- The place of the number one: the least float is two to the power of minus this. -/
@[irreducible]
def onePlace : Nat := 1074

/-- The units of the number one. -/
@[irreducible]
def unitsOfOne : Nat := 2 ^ onePlace

theorem onePlace_eq : onePlace = 1074 := by rw [onePlace]

theorem unitsOfOne_pos : 0 < unitsOfOne := by
  rw [unitsOfOne]
  exact Nat.two_pow_pos onePlace

/-- A leading digit in front of the fraction of a mantissa of fifty-three digits gives it back. -/
theorem toNat_append_fraction {mantissa : Nat} (long : 2 ^ 52 ≤ mantissa)
    (short : mantissa < 2 ^ 53) : (1#1 ++ BitVec.ofNat 52 mantissa).toNat = mantissa := by
  rw [BitVec.toNat_append, ← Nat.shiftLeft_add_eq_or_of_lt (BitVec.isLt _), BitVec.toNat_ofNat]
  change 1 <<< 52 + mantissa % 2 ^ 52 = mantissa
  omega

theorem log2_of_full {mantissa : Nat} (long : 2 ^ 52 ≤ mantissa) (short : mantissa < 2 ^ 53) :
    mantissa.log2 = 52 :=
  (Nat.log2_eq_iff (by omega)).mpr ⟨long, short⟩

/-- The place of a mantissa is what is above fifty-three digits of its units. -/
theorem place_eq {mantissa place : Nat} (positive : 0 < mantissa) (short : mantissa < 2 ^ 53)
    (full : 2 ^ 52 ≤ mantissa ∨ place = 0) : (mantissa * 2 ^ place).log2 - 52 = place := by
  have nonzero : mantissa ≠ 0 := Nat.ne_of_gt positive
  rw [log2_mul_power nonzero]
  rcases full with long | rfl
  · rw [log2_of_full long short]
    omega
  · have digits : mantissa.log2 < 53 := (Nat.log2_lt nonzero).mpr short
    omega

/-- Proper parts with the same mantissa and exponent are the same. -/
theorem finite_congr {sign : Sign} {mantissa other : Nat} {exponent next : Int}
    {positive : 0 < mantissa} {otherPositive : 0 < other} (sameMantissa : mantissa = other)
    (sameExponent : exponent = next) :
    UnpackedFloat.finite sign mantissa exponent positive =
      .finite sign other next otherPositive := by
  subst sameMantissa sameExponent
  rfl

/-- A mantissa of fifty-three digits loses its leading digit when it is packed, and gets it back. -/
theorem unpack_components_of_long {mantissa place : Nat} (positive : 0 < mantissa)
    (long : 2 ^ 52 ≤ mantissa) (short : mantissa < 2 ^ 53) (early : place < 2046) :
    UnpackedFloat.unpack Format.binary64 (packComponents Format.binary64 .positive
        (BitVec.ofNat 11 (place + 1)) (BitVec.ofNat 52 mantissa)) =
      .finite .positive mantissa (place - 1074) positive := by
  have scale : (BitVec.ofNat 11 (place + 1)).toNat = place + 1 := by
    rw [BitVec.toNat_ofNat]
    omega
  have notGreatest : ¬ BitVec.ofNat 11 (place + 1) = -1#11 := by
    intro greatest
    rw [greatest] at scale
    change 2047 = place + 1 at scale
    omega
  have notLeast : ¬ BitVec.ofNat 11 (place + 1) = 0#11 := by
    intro least
    rw [least] at scale
    change 0 = place + 1 at scale
    omega
  unfold UnpackedFloat.unpack
  simp only [unpackExponent_packComponents, unpackMantissa_packComponents,
    unpackSign_packComponents, Sign.ofBitVec_toBitVec, if_neg notGreatest, if_neg notLeast]
  refine finite_congr (toNat_append_fraction long short) ?_
  rw [scale]
  change ((place + 1 : Nat) : Int) - (1023 + 52) = place - 1074
  omega

/-- A mantissa of fewer digits has none to lose. -/
theorem unpack_components_of_few {mantissa : Nat} (positive : 0 < mantissa)
    (few : mantissa < 2 ^ 52) :
    UnpackedFloat.unpack Format.binary64 (packComponents Format.binary64 .positive 0#11
        (BitVec.ofNat 52 mantissa)) = .finite .positive mantissa ((0 : Nat) - 1074) positive := by
  have fraction : (BitVec.ofNat 52 mantissa).toNat = mantissa := by
    rw [BitVec.toNat_ofNat]
    omega
  have nonzero : ¬ BitVec.ofNat 52 mantissa = 0#52 := by
    intro none
    rw [none] at fraction
    exact Nat.ne_of_gt positive fraction.symm
  have notGreatest : ¬ 0#11 = -1#11 := by decide
  unfold UnpackedFloat.unpack
  simp only [unpackExponent_packComponents, unpackMantissa_packComponents,
    unpackSign_packComponents, Sign.ofBitVec_toBitVec, if_neg notGreatest, if_true]
  rw [dif_neg nonzero]
  exact finite_congr fraction rfl

/-- Parts that are packed as a proper number are kept by packing and unpacking. -/
theorem unpack_pack_finite {mantissa place : Nat} (positive : 0 < mantissa)
    (short : mantissa < 2 ^ 53) (full : 2 ^ 52 ≤ mantissa ∨ place = 0) (early : place < 2046) :
    (Float.Model.pack (.finite .positive mantissa (place - 1074) positive)).unpack =
      .finite .positive mantissa (place - 1074) positive := by
  have biased : ((place : Int) - 1074 + 1023 + 52).toNat = place + 1 := by omega
  change UnpackedFloat.unpack Format.binary64
    (if 2048 ≤ ((place : Int) - 1074 + 1023 + 52).toNat + 1 then _
      else if mantissa.log2 + 1 = 53 then packComponents Format.binary64 .positive
        (BitVec.ofNat 11 ((place : Int) - 1074 + 1023 + 52).toNat) (BitVec.ofNat 52 mantissa)
      else packComponents Format.binary64 .positive 0#11 (BitVec.ofNat 52 mantissa)) = _
  rw [biased, if_neg (by omega)]
  by_cases long : 2 ^ 52 ≤ mantissa
  · rw [if_pos (by rw [log2_of_full long short])]
    exact unpack_components_of_long positive long short early
  · obtain rfl : place = 0 := full.resolve_left long
    have fewer : mantissa.log2 < 52 := (Nat.log2_lt (Nat.ne_of_gt positive)).mpr (by omega)
    rw [if_neg (by omega)]
    exact unpack_components_of_few positive (Nat.not_le.mp long)

/-- A float that is packed from parts has their units, if these are not above the greatest. -/
theorem worth_pack {parts : UnpackedFloat} {units : Nat} (worth : PartsWorth parts units)
    (fits : units.log2 < 2098) : Worth (.ofModel (Float.Model.pack parts)) units := by
  change PartsWorth (Float.Model.pack parts).unpack units
  cases worth with
  | zero => exact .zero
  | @finite mantissa place positive short full =>
    have same := place_eq positive short full
    rw [unpack_pack_finite positive short full (by omega)]
    exact .finite positive short full

/-- A float that is packed from parts that are above the greatest is infinite. -/
theorem unpack_pack_infinite {parts : UnpackedFloat} {units : Nat} (worth : PartsWorth parts units)
    (beyond : 2098 ≤ units.log2) :
    (Float.Model.pack parts).unpack = .infinity .positive := by
  cases worth with
  | zero => exact absurd beyond (by decide)
  | @finite mantissa place positive short full =>
    have same := place_eq positive short full
    have packed : UnpackedFloat.pack Format.binary64
        (.finite .positive mantissa (place - 1074) positive) =
          packedInfinity Format.binary64 .positive := by
      change (if 2048 ≤ ((place : Int) - 1074 + 1023 + 52).toNat + 1 then _ else _) = _
      rw [if_pos (by omega)]
    change UnpackedFloat.unpack Format.binary64 (UnpackedFloat.pack Format.binary64 _) = _
    rw [packed]
    rfl

/-! ## The exact value of a float -/

/-- What parts stand for. -/
def exactOf : UnpackedFloat → Exact
  | .infinity sign => .infinite (sign == .negative)
  | .notANumber => .notANumber
  | .zero sign => .finite (sign == .negative) 0 (-1074)
  | .finite sign mantissa exponent _ => .finite (sign == .negative) mantissa exponent

theorem toNat_unpackExponent (bits : UInt64) :
    (@unpackExponent Format.binary64 bits.toBitVec).toNat =
      bits.toNat / power 2 52 % power 2 11 := by
  simp [unpackExponent, power, BitVec.extractLsb, Nat.shiftRight_eq_div_pow]

theorem toNat_unpackMantissa (bits : UInt64) :
    (@unpackMantissa Format.binary64 bits.toBitVec).toNat = bits.toNat % power 2 52 := by
  simp [unpackMantissa, power, BitVec.extractLsb]

theorem unpackSign_eq (bits : UInt64) :
    (Sign.ofBitVec (@unpackSign Format.binary64 bits.toBitVec) == .negative) =
      (bits.toNat / power 2 63 == 1) := by
  have within : bits.toNat / power 2 63 < 2 := by
    have bound := bits.toNat_lt
    simp only [power, Nat.pow_eq]
    omega
  have number : (@unpackSign Format.binary64 bits.toBitVec).toNat = bits.toNat / power 2 63 := by
    simp [unpackSign, power, BitVec.extractLsb, Nat.shiftRight_eq_div_pow] at within ⊢
    omega
  unfold Sign.ofBitVec
  by_cases none : @unpackSign Format.binary64 bits.toBitVec = 0#1
  · rw [if_pos none]
    rw [none] at number
    rw [← number]
    rfl
  · rw [if_neg none]
    have some : bits.toNat / power 2 63 ≠ 0 := by
      intro zero
      exact none (BitVec.eq_of_toNat_eq (number.trans zero))
    have one : bits.toNat / power 2 63 = 1 := by omega
    rw [one]
    rfl

/-- The exact value of a float is what its parts stand for. -/
theorem ofFloat_eq_exactOf (value : Float) :
    Exact.ofFloat value = exactOf value.toModel.unpack := by
  change _ = exactOf (UnpackedFloat.unpack Format.binary64 value.toBits.toBitVec)
  have scale := toNat_unpackExponent value.toBits
  have fraction := toNat_unpackMantissa value.toBits
  have noFraction := fraction_eq_iff value.toBits
  have greatestScale := scale_eq_iff value.toBits
  unfold Exact.ofFloat UnpackedFloat.unpack
  dsimp only
  rw [← unpackSign_eq value.toBits]
  by_cases greatest : @unpackExponent Format.binary64 value.toBits.toBitVec = -1#_
  · rw [if_pos (greatestScale.mpr greatest), if_pos greatest]
    by_cases none : @unpackMantissa Format.binary64 value.toBits.toBitVec = 0#_
    · rw [if_pos (noFraction.mpr none), if_pos none]
      rfl
    · rw [if_neg (mt noFraction.mp none), if_neg none]
      rfl
  · rw [if_neg (mt greatestScale.mp greatest), if_neg greatest]
    by_cases least : @unpackExponent Format.binary64 value.toBits.toBitVec = 0#_
    · have lowest : value.toBits.toNat / power 2 52 % power 2 11 = 0 := by
        rw [← scale, least]
        rfl
      rw [if_pos lowest, if_pos least]
      by_cases none : @unpackMantissa Format.binary64 value.toBits.toBitVec = 0#_
      · rw [dif_pos none, noFraction.mpr none]
        rfl
      · rw [dif_neg none, ← fraction]
        rw [exactOf, least]
        rfl
    · have notLowest : value.toBits.toNat / power 2 52 % power 2 11 ≠ 0 := by
        rw [← scale]
        exact fun lowest => least (BitVec.eq_of_toNat_eq lowest)
      have whole : (1#1 ++ @unpackMantissa Format.binary64 value.toBits.toBitVec).toNat =
          power 2 52 + value.toBits.toNat % power 2 52 := by
        rw [← fraction, BitVec.toNat_append, ← Nat.shiftLeft_add_eq_or_of_lt (BitVec.isLt _)]
        rfl
      rw [if_neg notLowest, if_neg least, exactOf, whole, ← scale]
      rfl

/-- The exact value of a float with its units. -/
theorem exists_exact_of_worth {value : Float} {units : Nat} (worth : Worth value units) :
    ∃ mantissa place : Nat, mantissa < 2 ^ 53 ∧ units = mantissa * 2 ^ place ∧
      Exact.ofFloat value = .finite false mantissa (place - 1074) := by
  have exact_value := ofFloat_eq_exactOf value
  unfold Worth at worth
  generalize value.toModel.unpack = parts at worth exact_value
  cases worth with
  | zero => exact ⟨0, 0, by decide, rfl, exact_value⟩
  | @finite mantissa place positive short full => exact ⟨mantissa, place, short, rfl, exact_value⟩

end SheetIntake.Decimal
