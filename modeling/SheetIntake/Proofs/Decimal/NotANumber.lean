import Mathlib.Tactic.Common
import SheetIntake.Decimal.Numeral

/-!
# Floats that are numbers

A float is not a number when its scale is the greatest and its fraction is not zero. Rounding a
number to the nearest float never gives such a float, so what a numeral says is a number unless the
numeral is the word for none. The two zeros are the floats whose scale and fraction are both zero.
-/

namespace SheetIntake.Decimal

open Float.Model Float.Model.UnpackedFloat SheetIntake.Text

/-- The scale of a float is the greatest when all its bits are set. -/
theorem scale_eq_iff (bits : UInt64) :
    bits.toNat / power 2 52 % power 2 11 = 2047 ↔
      @unpackExponent Format.binary64 bits.toBitVec = -1#_ := by
  rw [← BitVec.toNat_inj]
  simp [unpackExponent, power, BitVec.extractLsb, Nat.shiftRight_eq_div_pow]

theorem fraction_eq_iff (bits : UInt64) :
    bits.toNat % power 2 52 = 0 ↔
      @unpackMantissa Format.binary64 bits.toBitVec = 0#_ := by
  rw [← BitVec.toNat_inj]
  simp [unpackMantissa, power, BitVec.extractLsb]

theorem ofFloat_eq_notANumber_iff (value : Float) :
    Exact.ofFloat value = .notANumber ↔
      value.toBits.toNat / power 2 52 % power 2 11 = 2047 ∧
        value.toBits.toNat % power 2 52 ≠ 0 := by
  unfold Exact.ofFloat
  dsimp only
  split
  · next greatest =>
    split
    · next none => simp [none]
    · next some => simp [greatest, some]
  · next smaller =>
    split
    · simp [smaller]
    · simp [smaller]

theorem unpack_eq_notANumber_iff {format : Format} (bits : BitVec format.numBits) :
    UnpackedFloat.unpack format bits = .notANumber ↔
      unpackExponent bits = -1#_ ∧ unpackMantissa bits ≠ 0#_ := by
  unfold UnpackedFloat.unpack
  by_cases greatest : unpackExponent bits = -1#_
  · rw [if_pos greatest]
    by_cases none : unpackMantissa bits = 0#_
    · rw [if_pos none]
      exact iff_of_false UnpackedFloat.noConfusion fun both => both.2 none
    · rw [if_neg none]
      exact iff_of_true rfl ⟨greatest, none⟩
  · rw [if_neg greatest]
    apply iff_of_false
    · by_cases lowest : unpackExponent bits = 0#_
      · rw [if_pos lowest]
        by_cases none : unpackMantissa bits = 0#_
        · rw [dif_pos none]
          exact UnpackedFloat.noConfusion
        · rw [dif_neg none]
          exact UnpackedFloat.noConfusion
      · rw [if_neg lowest]
        exact UnpackedFloat.noConfusion
    · intro both
      exact greatest both.1

/-- Being no number is the same for the exact value of a float and for its parts. -/
theorem isNotANumber_iff (value : Float) :
    isNotANumber value = true ↔ value.toModel.unpack = .notANumber := by
  have parts : value.toModel.unpack =
      UnpackedFloat.unpack Format.binary64 value.toBits.toBitVec := rfl
  rw [parts, unpack_eq_notANumber_iff, isNotANumber, beq_iff_eq, ofFloat_eq_notANumber_iff,
    scale_eq_iff, Ne, fraction_eq_iff]

/-- What is packed is no number only if it was none before. -/
theorem unpack_pack_ne_notANumber {parts : UnpackedFloat} (number : parts ≠ .notANumber) :
    UnpackedFloat.unpack Format.binary64 (UnpackedFloat.pack Format.binary64 parts) ≠
      .notANumber := by
  rw [Ne, unpack_eq_notANumber_iff]
  rintro ⟨greatest, some⟩
  cases parts with
  | notANumber => exact number rfl
  | infinity sign => exact some unpackMantissa_packComponents
  | zero sign => exact some unpackMantissa_packComponents
  | finite sign mantissa exponent positive =>
    unfold UnpackedFloat.pack at greatest some
    dsimp only at greatest some
    split at greatest
    · next beyond =>
      rw [if_pos beyond] at some
      exact some unpackMantissa_packComponents
    · next within =>
      split at greatest
      · rw [unpackExponent_packComponents, ← BitVec.toNat_inj] at greatest
        have largest : (-BitVec.ofNat Format.binary64.exponentBits 1).toNat = 2047 := by decide
        rw [largest, BitVec.toNat_ofNat] at greatest
        generalize (exponent + Format.binary64.exponentBias +
          Format.binary64.mantissaBitsWithoutImplicit).toNat = biased at within greatest
        change ¬ 2048 ≤ biased + 1 at within
        change biased % 2048 = 2047 at greatest
        omega
      · rw [unpackExponent_packComponents] at greatest
        exact absurd greatest (by decide)

/-- The number of parts that are rounded is a number. -/
theorem isNotANumber_pack {parts : UnpackedFloat} (number : parts ≠ .notANumber) :
    isNotANumber (.ofModel (Float.Model.pack parts)) = false := by
  rw [← Bool.not_eq_true, isNotANumber_iff]
  exact unpack_pack_ne_notANumber number

theorem roundWithAccuracy_ne_notANumber (format : Format) (sign : Sign) (mantissa : Nat)
    (exponent : Int) (accuracy : Accuracy) :
    roundWithAccuracy format sign mantissa exponent accuracy ≠ .notANumber := by
  have rounded : ∀ (size : Nat) (place : Int),
      (if none : size = 0 then UnpackedFloat.zero sign
        else .finite sign size place (Nat.pos_of_ne_zero none)) ≠ .notANumber := by
    intro size place
    by_cases none : size = 0
    · rw [dif_pos none]
      exact UnpackedFloat.noConfusion
    · rw [dif_neg none]
      exact UnpackedFloat.noConfusion
  exact rounded _ _

/-- Whether parts are those of a number that is neither zero nor infinite. -/
def isProper : UnpackedFloat → Bool
  | .finite _ _ _ _ => true
  | _ => false

/-- A number times a proper number is a number. -/
theorem mul_ne_notANumber {format : Format} {left right : UnpackedFloat}
    (number : left ≠ .notANumber) (proper : isProper right = true) :
    UnpackedFloat.mul format left right ≠ .notANumber := by
  cases right with
  | notANumber => cases proper
  | infinity sign => cases proper
  | zero sign => cases proper
  | finite sign mantissa exponent positive =>
    cases left with
    | notANumber => exact absurd rfl number
    | infinity other => exact UnpackedFloat.noConfusion
    | zero other => exact UnpackedFloat.noConfusion
    | finite other size power more => exact roundWithAccuracy_ne_notANumber _ _ _ _ _

/-- A number divided by a proper number is a number. -/
theorem div_ne_notANumber {format : Format} {left right : UnpackedFloat}
    (number : left ≠ .notANumber) (proper : isProper right = true) :
    UnpackedFloat.div format left right ≠ .notANumber := by
  cases right with
  | notANumber => cases proper
  | infinity sign => cases proper
  | zero sign => cases proper
  | finite sign mantissa exponent positive =>
    cases left with
    | notANumber => exact absurd rfl number
    | infinity other => exact UnpackedFloat.noConfusion
    | zero other => exact UnpackedFloat.noConfusion
    | finite other size power more => exact roundWithAccuracy_ne_notANumber _ _ _ _ _

/-- A natural number times a power of ten is a number. -/
theorem ofScientific_ne_notANumber (format : Format) (coefficient : Nat) (exponent : Int) :
    UnpackedFloat.ofScientific format coefficient exponent ≠ .notANumber := by
  unfold UnpackedFloat.ofScientific
  by_cases none : coefficient = 0
  · rw [dif_pos none]
    exact UnpackedFloat.noConfusion
  · rw [dif_neg none]
    by_cases beyond : exponent > 2 ^ format.exponentBits
    · rw [if_pos beyond]
      exact UnpackedFloat.noConfusion
    · rw [if_neg beyond]
      by_cases below : exponent < -((2 ^ format.exponentBits : Int) + coefficient.log2)
      · rw [if_pos below]
        exact UnpackedFloat.noConfusion
      · rw [if_neg below]
        by_cases whole : 0 ≤ exponent
        · rw [if_pos whole]
          exact mul_ne_notANumber UnpackedFloat.noConfusion rfl
        · rw [if_neg whole]
          exact div_ne_notANumber UnpackedFloat.noConfusion rfl

theorem ofInt_ne_notANumber (format : Format) (value : Int) :
    UnpackedFloat.ofInt format value ≠ .notANumber := by
  unfold UnpackedFloat.ofInt UnpackedFloat.normalize
  split
  · exact roundWithAccuracy_ne_notANumber _ _ _ _ _
  · exact UnpackedFloat.noConfusion
  · exact roundWithAccuracy_ne_notANumber _ _ _ _ _

/-- The powers of ten that are floats are proper numbers. -/
theorem isProper_powersOfTen : ∀ place : Fin Float.exactlyRepresentablePowersOfTen.size,
    isProper (Float.exactlyRepresentablePowersOfTen[place].toModel.unpack) = true := by
  decide

/-- The float nearest to a natural number times a power of ten is a number. -/
theorem isNotANumber_ofScientific (coefficient : Nat) (below : Bool) (places : Nat) :
    isNotANumber (Float.ofScientific coefficient below places) = false := by
  unfold Float.ofScientific
  split
  · next small =>
    have whole : coefficient.toUInt64.toFloat.toModel.unpack ≠ .notANumber :=
      unpack_pack_ne_notANumber (ofInt_ne_notANumber _ _)
    have proper := isProper_powersOfTen ⟨places, by
      have size : Float.exactlyRepresentablePowersOfTen.size = 23 := rfl
      omega⟩
    dsimp only
    split
    · exact isNotANumber_pack (div_ne_notANumber whole proper)
    · exact isNotANumber_pack (mul_ne_notANumber whole proper)
  · exact isNotANumber_pack (ofScientific_ne_notANumber _ _ _)

/-- The opposite of a number is a number. -/
theorem isNotANumber_neg {value : Float} (number : isNotANumber value = false) :
    isNotANumber (-value) = false := by
  rw [← Bool.not_eq_true, isNotANumber_iff] at number
  apply isNotANumber_pack
  cases parts : value.toModel.unpack with
  | notANumber => exact absurd parts number
  | infinity sign => exact UnpackedFloat.noConfusion
  | zero sign => exact UnpackedFloat.noConfusion
  | finite sign mantissa exponent positive => exact UnpackedFloat.noConfusion

/-- The scale and the fraction of a zero are zero. -/
theorem fields_of_isZero {value : Float} (zero : isZero value = true) :
    value.toBits.toNat / power 2 52 % power 2 11 = 0 ∧ value.toBits.toNat % power 2 52 = 0 := by
  unfold isZero at zero
  split at zero
  · next mantissa exponent parts =>
    rw [beq_iff_eq] at zero
    subst zero
    unfold Exact.ofFloat at parts
    dsimp only at parts
    split at parts
    · split at parts <;> cases parts
    · split at parts
      · next lowest => exact ⟨lowest, (Exact.finite.inj parts).2.1⟩
      · -- A number of full length has a leading digit before its fraction.
        have sum := (Exact.finite.inj parts).2.1
        have leading : 0 < power 2 52 := power_pos (by decide) 52
        omega
  · cases zero
  · cases zero

/-- There are two zeros. -/
theorem eq_zero_of_isZero {value : Float} (zero : isZero value = true) :
    value = 0.0 ∨ value = -0.0 := by
  have known : ∀ {other : Float}, value.toBits.toNat = other.toBits.toNat → value = other := by
    rintro ⟨⟨others, _⟩⟩ same
    obtain ⟨⟨bits, _⟩⟩ := value
    cases UInt64.toNat_inj.mp same
    rfl
  obtain ⟨scale, fraction⟩ := fields_of_isZero zero
  have below : value.toBits.toNat < 2 ^ 64 := value.toBits.toNat_lt
  have bits : value.toBits.toNat = 0 ∨ value.toBits.toNat = 2 ^ 63 := by
    simp only [power, Nat.pow_eq] at scale fraction
    omega
  rcases bits with positive | negative
  · exact .inl (known positive)
  · exact .inr (known negative)

/-- A finite float is a number. -/
theorem isNotANumber_of_isFinite {value : Float} (finite : isFinite value = true) :
    isNotANumber value = false := by
  rw [isFinite] at finite
  rw [isNotANumber]
  cases exact_value : Exact.ofFloat value with
  | notANumber => rw [exact_value] at finite; cases finite
  | infinite negative => rfl
  | finite negative mantissa exponent => rfl

/-- The float nearest to a decimal number is a number. -/
theorem isNotANumber_nearestFloat (coefficient : Nat) (exponent : Int) :
    isNotANumber (nearestFloat coefficient exponent) = false := by
  unfold nearestFloat
  split
  · exact isNotANumber_ofScientific _ _ _
  · split
    · decide
    · split
      · exact isNotANumber_ofScientific _ _ _
      · split
        · exact isNotANumber_ofScientific _ _ _
        · exact isNotANumber_ofScientific _ _ _

/-- What a numeral says is a number unless the numeral is the word for none. -/
theorem isNotANumber_toFloat {numeral : Numeral} (number : numeral ≠ .notANumber) :
    isNotANumber numeral.toFloat = false := by
  cases numeral with
  | notANumber => exact absurd rfl number
  | infinite negative => cases negative <;> decide
  | finite negative coefficient exponent =>
    have size := isNotANumber_nearestFloat coefficient exponent
    cases negative with
    | false => exact size
    | true => exact isNotANumber_neg size

/-- The characters of which a numeral with a fraction or an exponent has one. -/
def isFloatMark (character : Char) : Bool :=
  character = '.' || character = 'e' || character = 'E'

theorem eq_of_isFloatMark {character : Char} (mark : isFloatMark character = true) :
    character = '.' ∨ character = 'e' ∨ character = 'E' := by
  simpa [isFloatMark, or_assoc] using mark

/-- Taking a sign away leaves the marks. -/
theorem mem_takeSign {characters : List Char} {character : Char} (mark : isFloatMark character)
    (present : character ∈ characters) : character ∈ (takeSign characters).2 := by
  unfold takeSign
  split
  · rcases List.mem_cons.mp present with rfl | later
    · exact absurd mark (by decide)
    · exact later
  · rcases List.mem_cons.mp present with rfl | later
    · exact absurd mark (by decide)
    · exact later
  · exact present

/-- A numeral with a mark is not the word for no number. -/
theorem read?_ne_notANumber {digit : Char → Option Nat} {characters : List Char}
    {numeral : Numeral} (read : Numeral.read? digit characters = some numeral) {character : Char}
    (mark : isFloatMark character) (present : character ∈ characters) :
    numeral ≠ .notANumber := by
  unfold Numeral.read? at read
  dsimp only at read
  split at read
  · cases read
    exact Numeral.noConfusion
  · split at read
    · next word =>
      have lower : character.toLower ∈ ((takeSign characters).2.map Char.toLower) :=
        List.mem_map_of_mem (mem_takeSign mark present)
      have letters : ((takeSign characters).2.map Char.toLower) = "nan".toList := by
        rw [← word, String.toList_ofList]
      rw [letters] at lower
      rcases eq_of_isFloatMark mark with rfl | rfl | rfl <;> exact absurd lower (by decide)
    · obtain ⟨parts, _, rfl⟩ := Option.map_eq_some_iff.mp read
      exact Numeral.noConfusion

/-- Joining groups of digits leaves the marks. -/
theorem mem_joinGroups? {digit : Char → Option Nat} {afterDigit : Bool}
    {characters joined : List Char} (joins : joinGroups? digit afterDigit characters = some joined)
    {character : Char} (mark : isFloatMark character) (present : character ∈ characters) :
    character ∈ joined := by
  induction characters generalizing afterDigit joined with
  | nil => cases present
  | cons first rest inductionHypothesis =>
    unfold joinGroups? at joins
    split at joins
    · next underscore =>
      have later : character ∈ rest := by
        rcases List.mem_cons.mp present with rfl | later
        · rw [underscore] at mark
          exact absurd mark (by decide)
        · exact later
      split at joins
      · cases joins
      · split at joins
        · exact inductionHypothesis joins later
        · cases joins
    · obtain ⟨others, restJoins, rfl⟩ := Option.map_eq_some_iff.mp joins
      rcases List.mem_cons.mp present with rfl | later
      · exact List.mem_cons_self
      · exact List.mem_cons_of_mem _ (inductionHypothesis restJoins later)

/-- What a text with a mark spells is a number. -/
theorem isNotANumber_of_readGroupedFloat? {text : String} {value : Float}
    (read : readGroupedFloat? text = some value) {character : Char} (mark : isFloatMark character)
    (present : character ∈ text.toList) : isNotANumber value = false := by
  obtain ⟨joined, joins, more⟩ := Option.bind_eq_some_iff.mp read
  obtain ⟨numeral, numeralRead, last⟩ := Option.bind_eq_some_iff.mp more
  cases last
  have visible : isSpace character = false := by
    rcases eq_of_isFloatMark mark with rfl | rfl | rfl <;> decide
  have inner : character ∈ strip isSpace text.toList := mem_strip visible present
  have joined := mem_joinGroups? joins mark inner
  exact isNotANumber_toFloat (read?_ne_notANumber numeralRead mark joined)

end SheetIntake.Decimal
