import SheetIntake.Text.Ranges

/-!
# Blank characters

Three classes of blank characters are in use. `isSpace` is the Unicode property White_Space;
`isBlank` adds the four separators U+001C to U+001F, which cells and settings also treat as blank;
`isGap` has the four that may stand between tokens. `unifyLines` makes line ends alike, and `strip`
removes blanks from both ends of a text.
The main statements are that a text is the stripped text between blanks, and that stripping leaves
no blank at either end.
-/

namespace SheetIntake.Text

/-- The code points of the Unicode property White_Space. -/
def spaceRanges : List (Nat × Nat) :=
  [(0x9, 0xd), (0x20, 0x20), (0x85, 0x85), (0xa0, 0xa0), (0x1680, 0x1680), (0x2000, 0x200a),
    (0x2028, 0x2029), (0x202f, 0x202f), (0x205f, 0x205f), (0x3000, 0x3000)]

/-- White space in the sense of Unicode. -/
def isSpace (character : Char) : Bool :=
  inRanges spaceRanges character.toNat

/-- White space, or one of the separators U+001C to U+001F. -/
def isBlank (character : Char) : Bool :=
  isSpace character || (0x1c ≤ character.toNat && character.toNat ≤ 0x1f)

/-- The blanks between the tokens of markup and of JSON texts. -/
def isGap (character : Char) : Bool :=
  character = ' ' || character = '\t' || character = '\n' || character = '\r'

/-- A text with each kind of line end as a line feed. -/
def unifyLines : List Char → List Char
  | [] => []
  | '\r' :: '\n' :: rest => '\n' :: unifyLines rest
  | '\r' :: rest => '\n' :: unifyLines rest
  | character :: rest => character :: unifyLines rest

/-- Removes the characters of a class from both ends. -/
def strip (outer : Char → Bool) (characters : List Char) : List Char :=
  ((characters.dropWhile outer).reverse.dropWhile outer).reverse

/-- A text without the blanks at its ends. -/
def stripped (text : String) : String :=
  String.ofList (strip isBlank text.toList)

/-- What `dropWhile` leaves does not begin with a character of the class. -/
theorem head?_dropWhile_not {outer : Char → Bool} {characters : List Char} {first : Char}
    (leads : (characters.dropWhile outer).head? = some first) : outer first = false := by
  induction characters with
  | nil => simp at leads
  | cons head tail inductionHypothesis =>
    by_cases dropped : outer head = true
    · rw [List.dropWhile_cons_of_pos dropped] at leads
      exact inductionHypothesis leads
    · rw [List.dropWhile_cons_of_neg dropped] at leads
      simp only [List.head?_cons, Option.some.injEq] at leads
      simpa [← leads] using dropped

/-- A text that begins with no character of the class is kept by `dropWhile`. -/
theorem dropWhile_eq_self {outer : Char → Bool} {characters : List Char}
    (clean : ∀ first, characters.head? = some first → outer first = false) :
    characters.dropWhile outer = characters := by
  cases characters with
  | nil => rfl
  | cons head tail =>
    rw [List.dropWhile_cons_of_neg]
    simp [clean head rfl]

/-- Stripping keeps a text with no character of the class at either end. -/
theorem strip_eq_self {outer : Char → Bool} {characters : List Char}
    (front : ∀ first, characters.head? = some first → outer first = false)
    (back : ∀ last, characters.getLast? = some last → outer last = false) :
    strip outer characters = characters := by
  rw [strip, dropWhile_eq_self front, dropWhile_eq_self, List.reverse_reverse]
  simpa [List.head?_reverse] using back

/-- A character outside the class is not dropped. -/
theorem mem_dropWhile_of_not {outer : Char → Bool} {characters : List Char} {character : Char}
    (inner : outer character = false) (present : character ∈ characters) :
    character ∈ characters.dropWhile outer := by
  induction characters with
  | nil => cases present
  | cons head tail inductionHypothesis =>
    by_cases dropped : outer head = true
    · rw [List.dropWhile_cons_of_pos dropped]
      rcases List.mem_cons.mp present with rfl | later
      · rw [inner] at dropped
        cases dropped
      · exact inductionHypothesis later
    · rw [List.dropWhile_cons_of_neg dropped]
      exact present

/-- Stripping leaves the characters outside the class. -/
theorem mem_strip {outer : Char → Bool} {characters : List Char} {character : Char}
    (inner : outer character = false) (present : character ∈ characters) :
    character ∈ strip outer characters := by
  rw [strip, List.mem_reverse]
  apply mem_dropWhile_of_not inner
  rw [List.mem_reverse]
  exact mem_dropWhile_of_not inner present

/-- What `dropWhile` leaves of a text is the stripped text and characters of the class after it. -/
theorem exists_strip_append (outer : Char → Bool) (characters : List Char) :
    ∃ after, (∀ character ∈ after, outer character = true) ∧
      characters.dropWhile outer = strip outer characters ++ after := by
  let kept := (characters.dropWhile outer).reverse
  refine ⟨(kept.takeWhile outer).reverse, fun character present => ?_, ?_⟩
  · exact List.all_eq_true.mp List.all_takeWhile character (List.mem_reverse.mp present)
  · rw [strip, ← List.reverse_append, List.takeWhile_append_dropWhile, List.reverse_reverse]

/-- A text is the stripped text between characters of the class. -/
theorem exists_append_strip_append (outer : Char → Bool) (characters : List Char) :
    ∃ before after, (∀ character ∈ before, outer character = true) ∧
      (∀ character ∈ after, outer character = true) ∧
      characters = before ++ strip outer characters ++ after := by
  obtain ⟨after, dropped, left⟩ := exists_strip_append outer characters
  refine ⟨characters.takeWhile outer, after, List.all_eq_true.mp List.all_takeWhile, dropped, ?_⟩
  rw [List.append_assoc, ← left, List.takeWhile_append_dropWhile]

/-- A stripped text does not begin with a character of the class. -/
theorem head?_strip_not {outer : Char → Bool} {characters : List Char} {first : Char}
    (leads : (strip outer characters).head? = some first) : outer first = false := by
  obtain ⟨after, _, left⟩ := exists_strip_append outer characters
  have begins : (characters.dropWhile outer).head? = some first := by
    rw [left, List.head?_append, leads, Option.some_or]
  exact head?_dropWhile_not begins

/-- A stripped text does not end with a character of the class. -/
theorem getLast?_strip_not {outer : Char → Bool} {characters : List Char} {last : Char}
    (ends : (strip outer characters).getLast? = some last) : outer last = false := by
  rw [strip, List.getLast?_reverse] at ends
  exact head?_dropWhile_not ends

/-- Characters of the class before and after a text are stripped. -/
theorem strip_append_append {outer : Char → Bool} {before characters after : List Char}
    (front : ∀ character ∈ before, outer character = true)
    (back : ∀ character ∈ after, outer character = true) :
    strip outer (before ++ characters ++ after) = strip outer characters := by
  rw [strip, strip, List.append_assoc, List.dropWhile_append_of_pos front, List.dropWhile_append]
  split
  · next gone =>
    have unkept : after.dropWhile outer = [] := by
      rw [← List.append_nil after, List.dropWhile_append_of_pos back, List.dropWhile_nil]
    rw [unkept, List.isEmpty_iff.mp gone]
  · rw [List.reverse_append, List.dropWhile_append_of_pos]
    exact fun character present => back character (List.mem_reverse.mp present)

end SheetIntake.Text
