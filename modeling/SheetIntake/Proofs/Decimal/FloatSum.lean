import SheetIntake.Proofs.Decimal.FloatRounding

/-!
# Sums of floats

Whole numbers of at most fifty-three digits are floats, and sums are followed closely enough to
compare them with whole numbers: a sum that starts at one or more stays there, and is not rounded
above a whole number that it does not exceed, or exceeds by far less than its last place.
-/

namespace SheetIntake.Decimal

open Float.Model Float.Model.UnpackedFloat

/-- A number that is rounded in place keeps the units that stand above its last place, and goes no
farther than to the nearest. -/
theorem exists_worth_of_exact_round {mantissa place : Nat} (nonzero : mantissa ≠ 0) :
    ∃ rounded, PartsWorth (UnpackedFloat.round Format.binary64 .positive mantissa (place - 1074))
        (rounded * 2 ^ ((mantissa * 2 ^ place).log2 - 52)) ∧
      mantissa * 2 ^ place / 2 ^ ((mantissa * 2 ^ place).log2 - 52) ≤ rounded ∧
      ∀ bound, 2 * (mantissa * 2 ^ place) <
          (2 * bound + 1) * 2 ^ ((mantissa * 2 ^ place).log2 - 52) → rounded ≤ bound := by
  obtain ⟨last, last_eq⟩ : ∃ last, last = (mantissa * 2 ^ place).log2 - 52 := ⟨_, rfl⟩
  have digits : (mantissa * 2 ^ place).log2 = mantissa.log2 + place := log2_mul_power nonzero place
  rw [← last_eq]
  have target : Format.binary64.targetExponent (totalExponent mantissa (place - 1074)) =
      (last : Int) - 1074 := by
    rw [targetExponent_eq]
    omega
  -- The digits behind the last place stay for rounding; a number that ends before it is filled up.
  obtain ⟨kept, kept_eq⟩ : ∃ kept, kept = place - (place - last) := ⟨_, rfl⟩
  have moved : decreaseExponent mantissa (place - 1074) (last - 1074) =
      (mantissa * 2 ^ (place - last), (kept : Int) - 1074) := by
    have amount : ((place : Int) - 1074 - ((last : Int) - 1074)).toNat = place - last := by omega
    unfold decreaseExponent
    dsimp only
    rw [amount, Nat.shiftLeft_eq]
    congr 1
    omega
  have same : mantissa * 2 ^ (place - last) * 2 ^ kept = mantissa * 2 ^ place := by
    rw [Nat.mul_assoc, ← Nat.pow_add]
    congr 2
    omega
  have filledNonzero : mantissa * 2 ^ (place - last) ≠ 0 :=
    Nat.mul_ne_zero nonzero (Nat.ne_of_gt (Nat.two_pow_pos _))
  have filledDigits : (mantissa * 2 ^ (place - last)).log2 = mantissa.log2 + (place - last) :=
    log2_mul_power nonzero _
  obtain ⟨rounded, worth, least, _, nearest⟩ :=
    @exists_worth_of_round (mantissa * 2 ^ (place - last)) last (last - kept) ((kept : Int) - 1074)
      (by omega) (by omega) (.inl filledNonzero) .exact
  have split : 2 ^ last = 2 ^ (last - kept) * 2 ^ kept := by
    rw [← Nat.pow_add]
    congr 1
    omega
  refine ⟨rounded, ?_, ?_, ?_⟩
  · unfold UnpackedFloat.round
    dsimp only
    rw [target, moved]
    exact worth
  · rw [← same, split, Nat.mul_div_mul_right _ _ (Nat.two_pow_pos kept)]
    exact least
  · intro bound near
    rw [← same, split, ← Nat.mul_assoc 2, ← Nat.mul_assoc (2 * bound + 1)] at near
    exact nearest rfl bound (Nat.lt_of_mul_lt_mul_right near)

/-- A number of at most fifty-three digits is rounded to itself. -/
theorem worth_round_of_short {mantissa place : Nat} (nonzero : mantissa ≠ 0)
    (short : mantissa < 2 ^ 53) :
    PartsWorth (UnpackedFloat.round Format.binary64 .positive mantissa (place - 1074))
      (mantissa * 2 ^ place) := by
  obtain ⟨rounded, worth, least, nearest⟩ := @exists_worth_of_exact_round mantissa place nonzero
  have digits : mantissa.log2 < 53 := (Nat.log2_lt nonzero).mpr short
  have early : (mantissa * 2 ^ place).log2 - 52 ≤ place := by
    rw [log2_mul_power nonzero]
    omega
  generalize (mantissa * 2 ^ place).log2 - 52 = last at worth least nearest early
  have split : mantissa * 2 ^ place = mantissa * 2 ^ (place - last) * 2 ^ last := by
    rw [Nat.mul_assoc, ← Nat.pow_add, Nat.sub_add_cancel early]
  rw [split] at least nearest ⊢
  rw [Nat.mul_div_cancel _ (Nat.two_pow_pos last)] at least
  have most : rounded ≤ mantissa * 2 ^ (place - last) := by
    refine nearest _ ?_
    rw [← Nat.mul_assoc]
    exact Nat.mul_lt_mul_of_pos_right (Nat.lt_succ_self _) (Nat.two_pow_pos last)
  rwa [Nat.le_antisymm most least] at worth

/-! ## Whole numbers -/

theorem log2_lt_of_lt_wholes {units bits : Nat} (nonzero : units ≠ 0)
    (most : units < 2 ^ bits * unitsOfOne) : units.log2 < bits + 1074 := by
  rwa [← onePlace_eq, Nat.log2_lt nonzero, Nat.pow_add, ← unitsOfOne]

theorem log2_whole_lt {whole : Nat} (short : whole < 2 ^ 53) :
    (whole * unitsOfOne).log2 < 2098 := by
  by_cases none : whole = 0
  · rw [none, Nat.zero_mul]
    decide
  · have digits := log2_lt_of_lt_wholes (Nat.mul_ne_zero none (Nat.ne_of_gt unitsOfOne_pos))
      (Nat.mul_lt_mul_of_pos_right short unitsOfOne_pos)
    exact Nat.lt_trans digits (by decide)

/-- A whole number of at most fifty-three digits is converted exactly. -/
theorem worth_toFloat {whole : Nat} (short : whole < 2 ^ 53) :
    Worth whole.toUInt64.toFloat (whole * unitsOfOne) := by
  have bits : whole.toUInt64.toNat = whole := UInt64.toNat_ofNat_of_lt' (by
    change whole < 2 ^ 64
    omega)
  change Worth (.ofModel (Float.Model.pack
    (UnpackedFloat.ofInt Format.binary64 whole.toUInt64.toNat))) _
  rw [bits]
  refine worth_pack ?_ (log2_whole_lt short)
  unfold UnpackedFloat.ofInt UnpackedFloat.normalize
  split
  · next negative =>
    rw [Int.compare_eq_lt] at negative
    omega
  · next zero =>
    rw [Int.compare_eq_eq] at zero
    have none : whole = 0 := by omega
    rw [none, Nat.zero_mul]
    exact .zero
  · next positive =>
    rw [Int.compare_eq_gt] at positive
    rw [Int.toNat_natCast]
    have inPlace := @worth_round_of_short whole onePlace (by omega) short
    rwa [← unitsOfOne, onePlace_eq] at inPlace

/-- A number times one is itself. -/
theorem worth_mul_one {value : Float} {units : Nat} (worth : Worth value units)
    (fits : units.log2 < 2098) :
    Worth (value * Float.exactlyRepresentablePowersOfTen[0]) units := by
  have power : (Float.exactlyRepresentablePowersOfTen[0]).toModel.unpack = one := rfl
  change Worth (.ofModel (Float.Model.pack (UnpackedFloat.mul Format.binary64 value.toModel.unpack
    (Float.exactlyRepresentablePowersOfTen[0]).toModel.unpack))) _
  rw [power]
  refine worth_pack ?_ fits
  unfold Worth at worth
  generalize value.toModel.unpack = parts at worth ⊢
  cases worth with
  | zero => exact .zero
  | @finite mantissa place positive short full =>
    have nonzero : mantissa ≠ 0 := Nat.ne_of_gt positive
    have same := place_eq positive short full
    rw [log2_mul_power nonzero] at same
    have digits : (mantissa * 2 ^ 52).log2 = mantissa.log2 + 52 := log2_mul_power nonzero 52
    obtain ⟨rounded, worth, least, _, nearest⟩ :=
      @exists_worth_of_round (mantissa * 2 ^ 52) place 52 ((place : Int) - 1074 + -52)
        (by omega) (by omega) (.inl (by omega)) .exact
    have most : rounded ≤ mantissa := nearest rfl mantissa (by omega)
    rw [Nat.mul_div_cancel _ (Nat.two_pow_pos 52)] at least
    obtain rfl := Nat.le_antisymm most least
    exact worth

/-- The float of a natural number of at most fifty-three binary digits is that number. -/
theorem worth_ofNat {whole : Nat} (short : whole < 2 ^ 53) :
    Worth (Float.ofNat whole) (whole * unitsOfOne) := by
  change Worth (Float.ofScientific whole false 0) _
  rw [Float.ofScientific, dif_pos ⟨short, by decide⟩]
  dsimp only
  rw [if_neg Bool.false_ne_true]
  exact worth_mul_one (worth_toFloat short) (log2_whole_lt short)

/-! ## Sums -/

theorem decreaseExponent_fst {mantissa place lower : Nat} (less : lower ≤ place) :
    (decreaseExponent mantissa (place - 1074) (lower - 1074)).1 =
      mantissa * 2 ^ (place - lower) := by
  have amount : ((place : Int) - 1074 - ((lower : Int) - 1074)).toNat = place - lower := by omega
  unfold decreaseExponent
  dsimp only
  rw [amount, Nat.shiftLeft_eq]

theorem normalize_of_pos {mantissa : Nat} (positive : 0 < mantissa) (exponent : Int) (sign : Sign) :
    UnpackedFloat.normalize Format.binary64 mantissa exponent sign =
      UnpackedFloat.round Format.binary64 .positive mantissa exponent := by
  unfold UnpackedFloat.normalize
  rw [Int.compare_eq_gt.mpr (by omega)]
  rfl

/-- Two proper numbers are added exactly, and their sum is rounded. -/
theorem exists_round_of_add {left right leftPlace rightPlace : Nat} (leftPositive : 0 < left)
    (rightPositive : 0 < right) :
    ∃ mantissa place : Nat, mantissa ≠ 0 ∧
      mantissa * 2 ^ place = left * 2 ^ leftPlace + right * 2 ^ rightPlace ∧
      UnpackedFloat.add Format.binary64 (.finite .positive left (leftPlace - 1074) leftPositive)
        (.finite .positive right (rightPlace - 1074) rightPositive) =
        UnpackedFloat.round Format.binary64 .positive mantissa (place - 1074) := by
  obtain ⟨place, place_eq⟩ : ∃ place, place = min leftPlace rightPlace := ⟨_, rfl⟩
  have lower : min ((leftPlace : Int) - 1074) (rightPlace - 1074) = (place : Int) - 1074 := by omega
  have positive : 0 < left * 2 ^ (leftPlace - place) + right * 2 ^ (rightPlace - place) :=
    Nat.add_pos_left (Nat.mul_pos leftPositive (Nat.two_pow_pos _)) _
  refine ⟨left * 2 ^ (leftPlace - place) + right * 2 ^ (rightPlace - place), place,
    Nat.ne_of_gt positive, ?_, ?_⟩
  · rw [Nat.add_mul, Nat.mul_assoc, Nat.mul_assoc, ← Nat.pow_add, ← Nat.pow_add,
      Nat.sub_add_cancel (by omega), Nat.sub_add_cancel (by omega)]
  · rw [← normalize_of_pos positive _ .positive]
    change UnpackedFloat.normalize Format.binary64
      (((decreaseExponent left (leftPlace - 1074)
          (min ((leftPlace : Int) - 1074) (rightPlace - 1074))).1 : Int) +
        ((decreaseExponent right (rightPlace - 1074)
          (min ((leftPlace : Int) - 1074) (rightPlace - 1074))).1 : Int))
      (min ((leftPlace : Int) - 1074) (rightPlace - 1074)) .positive = _
    rw [lower, decreaseExponent_fst (by omega), decreaseExponent_fst (by omega), ← Int.natCast_add]

/-- A total of one or more that is rounded stays at one or more, and is not rounded up above a whole
number unless it is far above it. -/
theorem exists_worth_of_total {mantissa place : Nat} (nonzero : mantissa ≠ 0)
    (least : unitsOfOne ≤ mantissa * 2 ^ place)
    (most : mantissa * 2 ^ place < 2 ^ 53 * unitsOfOne) :
    ∃ sum, PartsWorth (UnpackedFloat.round Format.binary64 .positive mantissa (place - 1074)) sum ∧
      unitsOfOne ≤ sum ∧
      ∀ whole more few, few ≤ 1020 → more ≤ 2 ^ few →
        mantissa * 2 ^ place ≤ whole * unitsOfOne + more →
        sum ≤ whole * unitsOfOne := by
  obtain ⟨rounded, worth, kept, nearest⟩ := @exists_worth_of_exact_round mantissa place nonzero
  generalize mantissa * 2 ^ place = total at least most worth kept nearest
  have totalNonzero : total ≠ 0 := Nat.ne_of_gt (Nat.lt_of_lt_of_le unitsOfOne_pos least)
  have one_eq := onePlace_eq
  have first : onePlace ≤ total.log2 := by
    rwa [Nat.le_log2 totalNonzero, ← unitsOfOne]
  have last := log2_lt_of_lt_wholes totalNonzero most
  obtain ⟨lower, lower_eq⟩ : ∃ lower, lower = total.log2 - 52 := ⟨_, rfl⟩
  rw [← lower_eq] at worth kept nearest
  have split : unitsOfOne = 2 ^ (onePlace - lower) * 2 ^ lower := by
    rw [unitsOfOne, ← Nat.pow_add, Nat.sub_add_cancel (by omega)]
  refine ⟨rounded * 2 ^ lower, worth, ?_, fun whole more few small less bound => ?_⟩
  · rw [split] at least ⊢
    rw [← Nat.le_div_iff_mul_le (Nat.two_pow_pos lower)] at least
    exact Nat.mul_le_mul_right _ (Nat.le_trans least kept)
  · have half : 2 * more < 2 ^ lower := by
      calc 2 * more ≤ 2 * 2 ^ few := Nat.mul_le_mul_left 2 less
        _ = 2 ^ (few + 1) := Nat.pow_succ'.symm
        _ < 2 ^ lower := Nat.pow_lt_pow_right (by decide) (by omega)
    rw [split, ← Nat.mul_assoc] at bound ⊢
    refine Nat.mul_le_mul_right _ (nearest _ ?_)
    rw [Nat.add_mul, Nat.one_mul, Nat.mul_assoc 2]
    omega

/-- The sum of two numbers, the first of which is one or more. -/
theorem exists_worth_of_add {left right : Float} {units more : Nat} (leftWorth : Worth left units)
    (rightWorth : Worth right more) (least : unitsOfOne ≤ units) {few : Nat} (small : few ≤ 1020)
    (most : units + more < (2 ^ 53 - 1) * unitsOfOne) :
    ∃ sum, Worth (left + right) sum ∧ unitsOfOne ≤ sum ∧
      ∀ whole, units ≤ whole * unitsOfOne →
        units + more ≤ whole * unitsOfOne ∨ more ≤ 2 ^ few → sum ≤ whole * unitsOfOne := by
  suffices inParts : ∃ sum, PartsWorth (UnpackedFloat.add Format.binary64 left.toModel.unpack
      right.toModel.unpack) sum ∧ unitsOfOne ≤ sum ∧ sum ≤ (2 ^ 53 - 1) * unitsOfOne ∧
      ∀ whole, units ≤ whole * unitsOfOne →
        units + more ≤ whole * unitsOfOne ∨ more ≤ 2 ^ few → sum ≤ whole * unitsOfOne by
    obtain ⟨sum, worth, stays, within, bounded⟩ := inParts
    have nonzero : sum ≠ 0 := Nat.ne_of_gt (Nat.lt_of_lt_of_le unitsOfOne_pos stays)
    have digits := log2_lt_of_lt_wholes nonzero (Nat.lt_of_le_of_lt within
      (Nat.mul_lt_mul_of_pos_right (by decide : 2 ^ 53 - 1 < 2 ^ 53) unitsOfOne_pos))
    exact ⟨sum, worth_pack worth (Nat.lt_trans digits (by decide)), stays, bounded⟩
  unfold Worth at leftWorth rightWorth
  generalize left.toModel.unpack = leftParts at leftWorth ⊢
  generalize right.toModel.unpack = rightParts at rightWorth ⊢
  have within : units + more < 2 ^ 53 * unitsOfOne :=
    Nat.lt_of_lt_of_le most (Nat.mul_le_mul_right _ (by decide))
  cases leftWorth with
  | zero => exact absurd least (Nat.not_le.mpr unitsOfOne_pos)
  | @finite mantissa place positive short full =>
    cases rightWorth with
    | zero =>
      exact ⟨_, .finite positive short full, least, Nat.le_of_lt most, fun _ bound _ => bound⟩
    | @finite added addedPlace addedPositive addedShort addedFull =>
      obtain ⟨total, totalPlace, nonzero, total_eq, sum_eq⟩ :=
        @exists_round_of_add mantissa added place addedPlace positive addedPositive
      rw [← total_eq] at most within
      obtain ⟨sum, worth, stays, bounded⟩ := exists_worth_of_total nonzero
        (Nat.le_trans least (by rw [total_eq]; exact Nat.le_add_right _ _)) within
      rw [total_eq] at bounded
      refine ⟨sum, sum_eq ▸ worth, stays, bounded _ 0 few small (Nat.zero_le _) ?_,
        fun whole bound => ?_⟩
      · rw [← total_eq]
        exact Nat.le_of_lt most
      · rintro (under | less)
        · exact bounded whole 0 few small (Nat.zero_le _) under
        · exact bounded whole _ few small less (Nat.add_le_add_right bound _)

end SheetIntake.Decimal
