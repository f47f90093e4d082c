import SheetIntake.Text.Printable

/-!
# Quoted text

A text is quoted with apostrophes, or with double quotes when it holds an apostrophe and no double
quote. Inside, the quote in use and the backslash are escaped, line feeds, carriage returns and
tabs have short escapes, and any other character that is not printable is given by its code point
in two, four or eight hexadecimal digits.
-/

namespace SheetIntake.Text

/-- The apostrophe, U+0027. -/
def apostrophe : Char := Char.ofNat 0x27

/-- The quotation mark, U+0022. -/
def quotationMark : Char := Char.ofNat 0x22

/-- The backslash, U+005C. -/
def backslash : Char := Char.ofNat 0x5c

/-- A number in lower case hexadecimal, with zeros in front up to a width. -/
def hexadecimal (width value : Nat) : List Char :=
  let digits := Nat.toDigits 16 value
  List.replicate (width - digits.length) '0' ++ digits

/-- The quote that surrounds a text. -/
def quoteFor (characters : List Char) : Char :=
  if characters.contains apostrophe && !characters.contains quotationMark then quotationMark
  else apostrophe

/-- One character as it stands between quotes. -/
def quotedCharacter (quote character : Char) : List Char :=
  if character = quote ∨ character = backslash then [backslash, character]
  else if character = '\n' then [backslash, 'n']
  else if character = '\r' then [backslash, 'r']
  else if character = '\t' then [backslash, 't']
  else if isPrintable character then [character]
  else if character.toNat ≤ 0xff then backslash :: 'x' :: hexadecimal 2 character.toNat
  else if character.toNat ≤ 0xffff then backslash :: 'u' :: hexadecimal 4 character.toNat
  else backslash :: 'U' :: hexadecimal 8 character.toNat

/-- A text between quotes. -/
def quoted (text : String) : String :=
  let characters := text.toList
  let quote := quoteFor characters
  String.ofList (quote :: characters.flatMap (quotedCharacter quote) ++ [quote])

end SheetIntake.Text
