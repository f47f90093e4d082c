import SheetIntake.Calendar.DateText.Phrase
import SheetIntake.Proofs.Decimal.DigitText

/-!
# Tokens of digits

How a text of digits, marks and single letters falls into tokens, and what a token of digits is in a
phrase: a number, and no name of a month, a unit or anything else.
-/

namespace SheetIntake.Calendar.DateText

open SheetIntake.Decimal SheetIntake.Text

/-! ## Splitting -/

/-- Whether a character ends a number before it. -/
def EndsNumber (character : Char) : Prop :=
  isDigitCharacter character = false ∧ character ≠ '.' ∧ character ≠ ','

instance (character : Char) : Decidable (EndsNumber character) :=
  inferInstanceAs (Decidable (_ ∧ _ ∧ _))

/-- Whether no number goes on with some characters. -/
def StopsNumber (rest : List Char) : Prop :=
  ∀ next, rest.head? = some next → EndsNumber next

theorem stopsNumber_nil : StopsNumber [] := fun _ first => nomatch first

theorem stopsNumber_cons {mark : Char} {rest : List Char} :
    StopsNumber (mark :: rest) ↔ EndsNumber mark := by
  simp [StopsNumber]

theorem isDigitCharacter_of_isDigit {character : Char} (isDigit : character.isDigit = true) :
    isDigitCharacter character = true := by
  rw [isDigitCharacter, digitValue?_of_isDigit isDigit]
  rfl

theorem isLetter_of_isDigit {character : Char} (isDigit : character.isDigit = true) :
    isLetter character = false := by
  have bounds := toNat_of_isDigit isDigit
  rw [← Bool.not_eq_true, isLetter]
  intro letter
  rcases (Bool.or_eq_true _ _).mp letter with upper | lower
  · have code : 65 ≤ character.toNat := (of_decide_eq_true upper).1
    omega
  · have code : 97 ≤ character.toNat := of_decide_eq_true ((Bool.and_eq_true _ _).mp lower).1
    omega

theorem splitTokens_none_cons (character : Char) (rest : List Char) :
    splitTokens none (character :: rest) =
      match TokenKind.start? character with
      | some kind => splitTokens (some (kind, false, [character])) rest
      | none => loneToken character :: splitTokens none rest :=
  rfl

/-- A run goes on with a character, or is finished before it. -/
theorem splitTokens_some_cons (kind : TokenKind) (letters : Bool) (taken : List Char)
    (character : Char) (rest : List Char) :
    splitTokens (some (kind, letters, taken)) (character :: rest) =
      match kind.next? taken character with
      | some next =>
        splitTokens (some (next, letters || kind = .word || kind = .dottedWord,
          character :: taken)) rest
      | none =>
        finishToken kind (letters || kind = .word || kind = .dottedWord) taken ++
          splitTokens none (character :: rest) :=
  rfl

theorem splitTokens_mark {character : Char} (startsNone : TokenKind.start? character = none)
    (rest : List Char) :
    splitTokens none (character :: rest) = loneToken character :: splitTokens none rest := by
  rw [splitTokens_none_cons, startsNone]

/-- A letter alone is a token. -/
theorem splitTokens_letter {character : Char} (letter : isLetter character = true)
    {rest : List Char}
    (stops : ∀ next, rest.head? = some next → isLetter next = false ∧ next ≠ '.') :
    splitTokens none (character :: rest) = [character] :: splitTokens none rest := by
  have starts : TokenKind.start? character = some .word := by rw [TokenKind.start?, if_pos letter]
  rw [splitTokens_none_cons, starts]
  cases rest with
  | nil => rfl
  | cons next others =>
    obtain ⟨noLetter, noPoint⟩ := stops next rfl
    have ends : TokenKind.word.next? [character] next = none := by
      simp [TokenKind.next?, noLetter, noPoint]
    dsimp only
    rw [splitTokens_some_cons, ends]
    rfl

/-- A number ends before what no number goes on with. -/
theorem splitTokens_number {kind : TokenKind} (isNumber : kind = .number ∨ kind = .dottedNumber)
    (taken : List Char) {rest : List Char}
    (stops : ∀ next, rest.head? = some next → kind.next? taken next = none) :
    splitTokens (some (kind, false, taken)) rest =
      finishToken kind false taken ++ splitTokens none rest := by
  cases rest with
  | nil => rw [splitTokens, splitTokens, List.append_nil]
  | cons next others =>
    have noLetters : (false || decide (kind = .word) || decide (kind = .dottedWord)) = false := by
      rcases isNumber with rfl | rfl <;> rfl
    rw [splitTokens_some_cons, stops next rfl, noLetters]

/-- Digits go on with a number. -/
theorem splitTokens_append {kind : TokenKind} (isNumber : kind = .number ∨ kind = .dottedNumber)
    {digits : List Char} (areDigits : IsDigits digits) (taken rest : List Char) :
    splitTokens (some (kind, false, taken)) (digits ++ rest) =
      splitTokens (some (kind, false, digits.reverse ++ taken)) rest := by
  induction digits generalizing taken with
  | nil => rfl
  | cons digit others inductionHypothesis =>
    obtain ⟨isDigit, areOthers⟩ := List.forall_mem_cons.mp areDigits
    have goesOn : kind.next? taken digit = some kind := by
      have same := isDigitCharacter_of_isDigit isDigit
      rcases isNumber with rfl | rfl <;> simp [TokenKind.next?, same]
    have noLetters : (false || decide (kind = .word) || decide (kind = .dottedWord)) = false := by
      rcases isNumber with rfl | rfl <;> rfl
    rw [List.cons_append, splitTokens_some_cons, goesOn]
    dsimp only
    rw [noLetters, inductionHypothesis areOthers, List.reverse_cons, List.append_assoc]
    rfl

/-- The digits in front begin a number. -/
theorem splitTokens_digits_append {digits : List Char} (some : digits ≠ [])
    (areDigits : IsDigits digits) (rest : List Char) :
    splitTokens none (digits ++ rest) =
      splitTokens (Option.some (.number, false, digits.reverse)) rest := by
  obtain ⟨digit, others, rfl⟩ := List.exists_cons_of_ne_nil some
  obtain ⟨isDigit, areOthers⟩ := List.forall_mem_cons.mp areDigits
  have starts : TokenKind.start? digit = Option.some .number := by
    simp [TokenKind.start?, isLetter_of_isDigit isDigit, isDigitCharacter_of_isDigit isDigit]
  rw [List.cons_append, splitTokens_none_cons, starts]
  dsimp only
  rw [splitTokens_append (.inl rfl) areOthers, List.reverse_cons]

/-- Digits up to what no number goes on with are a token. -/
theorem splitTokens_digits {digits rest : List Char} (some : digits ≠ [])
    (areDigits : IsDigits digits) (stops : StopsNumber rest) :
    splitTokens none (digits ++ rest) = digits :: splitTokens none rest := by
  have ends : ∀ next, rest.head? = Option.some next →
      TokenKind.number.next? digits.reverse next = none := by
    intro next first
    obtain ⟨noDigit, noPoint, noComma⟩ := stops next first
    simp [TokenKind.next?, noDigit, noPoint, noComma]
  rw [splitTokens_digits_append some areDigits, splitTokens_number (.inl rfl) _ ends]
  simp [finishToken]

/-- There is no point among digits. -/
theorem count_point {digits : List Char} (areDigits : IsDigits digits) : digits.count '.' = 0 := by
  rw [List.count_eq_zero]
  intro present
  exact absurd (areDigits '.' present) (by decide)

/-- There is no comma among digits that could become a point. -/
theorem map_comma {digits : List Char} (areDigits : IsDigits digits) :
    digits.map (fun character => if character = ',' then '.' else character) = digits := by
  conv_rhs => rw [← List.map_id digits]
  apply List.map_congr_left
  intro character present
  exact if_neg (ne_of_isDigit (areDigits character present) rfl)

/-- A number with a point or, after at least two digits, a comma in it is a token, which has a
point. -/
theorem splitTokens_fraction {whole digits rest : List Char} {mark : Char} (some : whole ≠ [])
    (areWhole : IsDigits whole) (isMark : mark = '.' ∨ mark = ',' ∧ 2 ≤ whole.length)
    (more : digits ≠ []) (areDigits : IsDigits digits) (stops : StopsNumber rest) :
    splitTokens none (whole ++ mark :: (digits ++ rest)) =
      (whole ++ '.' :: digits) :: splitTokens none rest := by
  have goesOn : TokenKind.number.next? whole.reverse mark = Option.some .dottedNumber := by
    have noDigit : ∀ mark, mark = '.' ∨ mark = ',' → isDigitCharacter mark = false := by
      rintro _ (rfl | rfl) <;> decide
    rcases isMark with rfl | ⟨rfl, two⟩ <;>
      simp_all [TokenKind.next?]
  obtain ⟨last, isDigit, leads⟩ : ∃ last, last.isDigit = true ∧
      (digits.reverse ++ mark :: whole.reverse).head? = Option.some last := by
    obtain ⟨front, last, rfl⟩ := List.eq_nil_or_concat digits |>.resolve_left more
    exact ⟨last, areDigits last (by simp), by simp⟩
  have noPoint : last ≠ '.' := ne_of_isDigit isDigit rfl
  have noComma : last ≠ ',' := ne_of_isDigit isDigit rfl
  have ends : ∀ next, rest.head? = Option.some next →
      TokenKind.dottedNumber.next? (digits.reverse ++ mark :: whole.reverse) next = none := by
    intro next first
    obtain ⟨noDigit, nextNoPoint, _⟩ := stops next first
    simp [TokenKind.next?, noDigit, nextNoPoint, leads, noPoint]
  have finished : finishToken .dottedNumber false (digits.reverse ++ mark :: whole.reverse) =
      [whole ++ '.' :: digits] := by
    have reversed : (digits.reverse ++ mark :: whole.reverse).reverse =
        whole ++ mark :: digits := by
      simp
    unfold finishToken
    rw [reversed, leads]
    rcases isMark with rfl | ⟨rfl, _⟩
    · simp [count_point areWhole, count_point areDigits, noPoint, noComma]
    · simp [count_point areWhole, count_point areDigits, noPoint, noComma, map_comma areWhole,
        map_comma areDigits]
  have seen : (false || decide (TokenKind.number = .word) ||
      decide (TokenKind.number = .dottedWord)) = false := rfl
  rw [splitTokens_digits_append some areWhole, splitTokens_some_cons, goesOn]
  dsimp only
  rw [seen, splitTokens_append (.inr rfl) areDigits, splitTokens_number (.inr rfl) _ ends, finished]
  rfl

/-! ## Digits as tokens -/

theorem figure?_digits {digits : List Char} (some : digits ≠ []) (areDigits : IsDigits digits) :
    figure? digits = Option.some ⟨digitsOf digits, []⟩ := by
  obtain ⟨digit, others, rfl⟩ := List.exists_cons_of_ne_nil some
  rw [figure?, takeDigits_any areDigits]
  rfl

theorem figure?_fraction {whole digits : List Char} (some : whole ≠ []) (areWhole : IsDigits whole)
    (more : digits ≠ []) (areDigits : IsDigits digits) :
    figure? (whole ++ '.' :: digits) = Option.some ⟨digitsOf whole, digitsOf digits⟩ := by
  obtain ⟨first, others, rfl⟩ := List.exists_cons_of_ne_nil some
  obtain ⟨place, furthers, rfl⟩ := List.exists_cons_of_ne_nil more
  have taken : takeDigits digitValue? (first :: others ++ '.' :: place :: furthers) =
      (digitsOf (first :: others), '.' :: place :: furthers) := by
    apply takeDigits_append
    · exact fun _ present => digitValue?_of_isDigit (areWhole _ present)
    · intro next leads
      cases leads
      decide
  have places := takeDigits_any areDigits
  rw [figure?, taken, digitsOf, List.map_cons]
  simp only [places]
  rfl

theorem count?_digits {digits : List Char} (some : digits ≠ []) (areDigits : IsDigits digits) :
    count? digits = Option.some (numberOf digits) := by
  rw [count?, figure?_digits some areDigits]
  rfl

/-- A token of digits is no word that begins with anything else. -/
theorem word_ne_of_isDigits {digits : List Char} (some : digits ≠ []) (areDigits : IsDigits digits)
    {name : String} (begins : name.toList.head?.any Char.isDigit = false) : word digits ≠ name := by
  rintro rfl
  obtain ⟨digit, others, rfl⟩ := List.exists_cons_of_ne_nil some
  have isDigit := areDigits digit List.mem_cons_self
  have lower : digit.toLower = digit := by
    have bounds := toNat_of_isDigit isDigit
    refine dif_neg fun upper => ?_
    have code : 65 ≤ digit.toNat := upper.1
    omega
  simp [word, lower, isDigit] at begins

theorem place?_of_isDigits {digits : List Char} (some : digits ≠ []) (areDigits : IsDigits digits)
    {names : List (List String)}
    (begin : ∀ variants ∈ names, ∀ name ∈ variants, name.toList.head?.any Char.isDigit = false) :
    place? names digits = none := by
  rw [place?, List.findIdx?_eq_none_iff]
  intro variants present
  rw [← Bool.not_eq_true, List.contains_iff_mem]
  exact fun named => word_ne_of_isDigits some areDigits (begin variants present _ named) rfl

theorem isJoining_of_isDigits {digits : List Char} (some : digits ≠ [])
    (areDigits : IsDigits digits) : isJoining digits = false := by
  have begin : ∀ name ∈ joiningWords, name.toList.head?.any Char.isDigit = false := by decide
  rw [isJoining, ← Bool.not_eq_true, List.contains_iff_mem]
  exact fun named => word_ne_of_isDigits some areDigits (begin _ named) rfl

end SheetIntake.Calendar.DateText
