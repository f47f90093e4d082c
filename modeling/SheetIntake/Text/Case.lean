import SheetIntake.Text.CaseTable

/-!
# Letter case of texts

Upper and lower case forms of whole texts, and equality of letters when case is ignored. One
upper case letter may become several characters; a capital sigma becomes a final sigma at the end
of a word.
-/

namespace SheetIntake.Text

/-- The upper case form of one character, which may have several characters. -/
def upperForm (character : Char) : List Char :=
  match upperExpansions.find? (·.1 == character.toNat) with
  | some expansion => expansion.2.map Char.ofNat
  | none => [Char.ofNat (shiftCase upperRuns character.toNat)]

/-- A text in upper case. -/
def upper (text : String) : String :=
  String.ofList (text.toList.flatMap upperForm)

/-- The single lower case letter of a character. -/
def lowerLetter (character : Char) : Char :=
  if character.toNat = 0x130 then 'i' else Char.ofNat (shiftCase lowerRuns character.toNat)

/-- Whether a character has case, so that it counts as part of a word. -/
def isCased (character : Char) : Bool :=
  inRanges casedRanges character.toNat

/-- Whether a character is passed over in the search for a cased neighbour. -/
def isCaseIgnorable (character : Char) : Bool :=
  inRanges caseIgnorableRanges character.toNat

/-- Whether the nearest character that is not passed over is cased. -/
def meetsCased (characters : List Char) : Bool :=
  match characters.dropWhile isCaseIgnorable with
  | [] => false
  | character :: _ => isCased character

/-- Lower case of the characters after `before`, which holds the characters already passed, the
nearest first. A capital sigma that ends a word becomes a final sigma. -/
def lowerAfter (before : List Char) : List Char → List Char
  | [] => []
  | character :: rest =>
    let form :=
      if character.toNat = 0x3a3 then
        if meetsCased before && !meetsCased rest then [Char.ofNat 0x3c2] else [Char.ofNat 0x3c3]
      else if character.toNat = 0x130 then ['i', Char.ofNat 0x307]
      else [lowerLetter character]
    form ++ lowerAfter (character :: before) rest

/-- A text in lower case. -/
def lower (text : String) : String :=
  String.ofList (lowerAfter [] text.toList)

/-- Whether two characters are one letter when case is ignored. -/
def sameLetter (left right : Char) : Bool :=
  let leftLetter := (lowerLetter left).toNat
  let rightLetter := (lowerLetter right).toNat
  leftLetter == rightLetter ||
    caseVariants.any fun variants => variants.contains leftLetter && variants.contains rightLetter

/-- Lower case of ASCII letters alone. -/
def asciiLower (text : String) : String :=
  String.ofList (text.toList.map Char.toLower)

end SheetIntake.Text
