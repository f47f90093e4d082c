import SheetIntake.Proofs.Decimal.DigitText

/-!
# Numerals of ASCII digits

A numeral without its sign is made of digits, and perhaps of a point with digits behind it, which
may be none. What the readers of numbers say of such a text is said here once, for a numeral that
stands behind a sign or behind none.
-/

namespace SheetIntake.Decimal

open SheetIntake.Text

/-- Whether a text is a numeral without a sign: digits up to its tail, which is empty or has a point
and the digits behind it. -/
structure IsNumeral (whole tail : List Char) : Prop where
  some : whole ≠ []
  areDigits : IsDigits whole
  ending : tail = [] ∨ ∃ places, IsDigits places ∧ tail = '.' :: places

/-- A text without blanks is not stripped of anything. -/
theorem strip_eq_self_of_forall {outer : Char → Bool} {characters : List Char}
    (inner : ∀ character ∈ characters, outer character = false) :
    strip outer characters = characters :=
  strip_eq_self (fun first leads => inner first (List.mem_of_head? leads))
    fun last ends => inner last (List.mem_of_getLast? ends)

/-- Digits in front of a text are taken from the digits with which it is known to begin. -/
theorem exists_more_of_append {whole tail front rest : List Char} (areDigits : IsDigits front)
    (stops : ∀ next, tail.head? = some next → next.isDigit = false)
    (same : whole ++ tail = front ++ rest) :
    ∃ more, whole = front ++ more ∧ rest = more ++ tail := by
  rcases List.append_eq_append_iff.mp same with ⟨more, shape, left⟩ | ⟨more, shape, left⟩
  · cases more with
    | nil =>
      refine ⟨[], ?_, left.symm⟩
      rw [shape, List.append_nil, List.append_nil]
    | cons digit others =>
      have isDigit : digit.isDigit = true := areDigits digit (shape ▸ by simp)
      rw [stops digit (by rw [left]; rfl)] at isDigit
      cases isDigit
  · exact ⟨more, shape, left⟩

theorem numberOf_split (count : Nat) (characters : List Char) :
    numberOf characters = numberOf (characters.take count) * 10 ^ (characters.length - count) +
      numberOf (characters.drop count) := by
  conv_lhs => rw [← List.take_append_drop count characters]
  rw [numberOf_append, List.length_drop]

/-- A text of digits stands for a number of at most as many digits. -/
theorem numberOf_lt {characters : List Char} (areDigits : IsDigits characters) :
    numberOf characters < 10 ^ characters.length :=
  (fixedDigits_numberOf areDigits).1

namespace IsNumeral

variable {whole tail : List Char} (numeral : IsNumeral whole tail)

include numeral

theorem stops {next : Char} (first : tail.head? = Option.some next) : next = '.' := by
  rcases numeral.ending with rfl | ⟨places, _, rfl⟩
  · cases first
  · exact (Option.some.inj first).symm

theorem stopsDigits {next : Char} (first : tail.head? = Option.some next) :
    next.isDigit = false := by
  rw [numeral.stops first]
  rfl

/-- What holds of digits and of the point holds of all characters of a numeral. -/
theorem forall_mem {property : Char → Prop}
    (digits : ∀ character, character.isDigit = true → property character) (point : property '.') :
    ∀ character ∈ whole ++ tail, property character := by
  have every {part : List Char} (areDigits : IsDigits part) :
      ∀ character ∈ part, property character :=
    fun character present => digits character (areDigits character present)
  refine List.forall_mem_append.mpr ⟨every numeral.areDigits, ?_⟩
  rcases numeral.ending with rfl | ⟨places, arePlaces, rfl⟩
  · exact fun _ present => nomatch present
  · exact List.forall_mem_cons.mpr ⟨point, every arePlaces⟩

/-- A numeral is read as a number of whatever size. -/
theorem isSome_readUnsigned? : (readUnsigned? asciiDigitValue? (whole ++ tail)).isSome = true := by
  have wholeTaken := takeDigits_ascii numeral.areDigits fun _ => numeral.stopsDigits
  have present : (digitsOf whole).isEmpty = false := by
    simpa [digitsOf] using numeral.some
  rcases numeral.ending with rfl | ⟨places, arePlaces, rfl⟩
  · rw [readUnsigned?, wholeTaken]
    simp [present, readExponent?]
  · have placesTaken := @takeDigits_ascii places [] arePlaces (by simp)
    rw [List.append_nil] at placesTaken
    rw [readUnsigned?, wholeTaken]
    simp [present, placesTaken, readExponent?]

end IsNumeral

/-! ## Behind a sign -/

/-- A text without a minus sign is what follows its sign, perhaps behind a plus sign. -/
theorem eq_or_eq_cons_of_takeSign {characters unsigned : List Char}
    (sign : takeSign characters = (false, unsigned)) :
    characters = unsigned ∨ characters = '+' :: unsigned := by
  unfold takeSign at sign
  split at sign
  · cases sign
  · exact .inr (congrArg _ (Prod.mk.inj sign).2)
  · exact .inl (Prod.mk.inj sign).2

theorem eq_cons_of_takeSign {characters unsigned : List Char}
    (sign : takeSign characters = (true, unsigned)) : characters = '-' :: unsigned := by
  unfold takeSign at sign
  split at sign
  · exact congrArg _ (Prod.mk.inj sign).2
  · cases sign
  · cases sign

/-- A text without underscores has no groups to join. -/
theorem joinGroups?_eq_self {digit : Char → Option Nat} {characters : List Char}
    (plain : ∀ character ∈ characters, character ≠ '_') (afterDigit : Bool) :
    joinGroups? digit afterDigit characters = some characters := by
  induction characters generalizing afterDigit with
  | nil => rfl
  | cons character rest inductionHypothesis =>
    obtain ⟨here, later⟩ := List.forall_mem_cons.mp plain
    rw [joinGroups?.eq_def]
    dsimp only
    rw [if_neg here, inductionHypothesis later]
    rfl

/-- A numeral that is read as an integer has no point, and is read as what its digits stand for. -/
theorem eq_of_readInteger? {characters whole tail : List Char} {value : Int}
    (numeral : IsNumeral whole tail) (sign : takeSign characters = (false, whole ++ tail))
    (read : readInteger? (String.ofList characters) = some value) :
    tail = [] ∧ value = numberOf whole := by
  have plain : ∀ character ∈ characters, isSpace character = false ∧ character ≠ '_' := by
    have inner : ∀ character ∈ whole ++ tail, isSpace character = false ∧ character ≠ '_' := by
      refine numeral.forall_mem (fun digit isDigit => ⟨?_, ?_⟩) (by decide)
      · have unblank := isBlank_of_isDigit isDigit
        rw [isBlank, Bool.or_eq_false_iff] at unblank
        exact unblank.1
      · rintro rfl
        cases isDigit
    rcases eq_or_eq_cons_of_takeSign sign with rfl | rfl
    · exact inner
    · exact List.forall_mem_cons.mpr ⟨by decide, inner⟩
  have unstripped : strip isSpace characters = characters :=
    strip_eq_self_of_forall fun _ present => (plain _ present).1
  have joined := @joinGroups?_eq_self digitValue? _ (fun _ present => (plain _ present).2) false
  have taken : takeDigits digitValue? (whole ++ tail) = (digitsOf whole, tail) := by
    refine takeDigits_append (fun _ present => digitValue?_of_isDigit (numeral.areDigits _ present))
      fun next first => ?_
    rw [numeral.stops first]
    decide
  rw [readInteger?, String.toList_ofList, unstripped, joined] at read
  simp only [Option.bind_eq_bind, Option.bind_some, sign, taken] at read
  split at read
  · cases read
  · next complete =>
    cases read
    simp only [Bool.or_eq_true, not_or, Bool.not_eq_true', Bool.not_eq_false,
      List.isEmpty_iff] at complete
    exact ⟨complete.2, rfl⟩

end SheetIntake.Decimal
