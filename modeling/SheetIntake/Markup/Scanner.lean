import SheetIntake.Markup.Basic
import SheetIntake.Markup.NameCharacter
import SheetIntake.Text.Blank
import SheetIntake.Text.Digit
import SheetIntake.Text.Quoted

/-!
# Scanning markup

A document has an optional declaration, one root element, and comments and instructions around it.
The scanner meets the parts in order and stops where the document is not well formed. What was met
before that place is kept, because a reader of rows uses them before it learns of the defect.
-/

namespace SheetIntake.Markup

open Text

/-- Whether a code point may stand in a document. -/
def isLegalCode (code : Nat) : Bool :=
  code = 9 || code = 10 || code = 13 || (0x20 ≤ code && code ≤ 0xd7ff) ||
    (0xe000 ≤ code && code ≤ 0xfffd) || (0x10000 ≤ code && code ≤ 0x10ffff)

/-- A name as it is written: an optional namespace prefix and a label. -/
structure RawName where
  space : Option String
  label : String
  deriving DecidableEq, Repr

/-- A name without colons at the front. -/
def takeLabel? (characters : List Char) : Option (String × List Char) :=
  match characters with
  | [] => none
  | first :: rest =>
    if startsName first then
      some (String.ofList (first :: rest.takeWhile continuesName), rest.dropWhile continuesName)
    else none

/-- A name at the front. -/
def takeName? (characters : List Char) : Option (RawName × List Char) := do
  let (first, rest) ← takeLabel? characters
  match rest with
  | ':' :: after =>
    let (label, final) ← takeLabel? after
    if final.head? = some ':' then none else some (⟨some first, label⟩, final)
  | _ => some (⟨none, first⟩, rest)

/-- The digits of a character reference in a base, up to the semicolon. -/
def takeCode? (base : Nat) (value? : Char → Option Nat) (digits : List Char) : Option Nat :=
  if digits.isEmpty then none
  else digits.foldlM (fun total digit => (value? digit).map fun value => base * total + value) 0

/-- The characters with names of their own. -/
def namedCharacters : List (String × Char) :=
  [("lt", '<'), ("gt", '>'), ("amp", '&'), ("quot", quotationMark), ("apos", apostrophe)]

/-- The character that a reference between `&` and `;` stands for. -/
def referent? (body : List Char) : Option Char :=
  let code? :=
    match body with
    | '#' :: 'x' :: digits => takeCode? 16 hexDigit? digits
    | '#' :: digits => takeCode? 10 asciiDigitValue? digits
    | _ => none
  match code? with
  | some code => if isLegalCode code then some (Char.ofNat code) else none
  | none =>
    (namedCharacters.find? fun entry => entry.1 = String.ofList body).map Prod.snd

/-- The character of a reference after its `&`, and what follows the semicolon. -/
def takeReference? (characters : List Char) : Option (Char × List Char) :=
  match characters.dropWhile (· ≠ ';') with
  | ';' :: rest => (referent? (characters.takeWhile (· ≠ ';'))).map fun value => (value, rest)
  | _ => none

/-- The value of an attribute up to the closing quote. White space counts as spaces. -/
def takeQuoted? : Nat → Char → List Char → List Char → Option (String × List Char)
  | 0, _, _, _ => none
  | _, _, _, [] => none
  | fuel + 1, quote, taken, character :: rest =>
    if character = quote then some (String.ofList taken.reverse, rest)
    else if character = '<' ∨ isLegalCode character.toNat = false then none
    else if character = '&' then
      match takeReference? rest with
      | some (value, after) => takeQuoted? fuel quote (value :: taken) after
      | none => none
    else takeQuoted? fuel quote ((if isGap character then ' ' else character) :: taken) rest

/-- One attribute at the front. -/
def takeAttribute? (characters : List Char) : Option ((RawName × String) × List Char) := do
  let (name, afterName) ← takeName? characters
  match afterName.dropWhile isGap with
  | '=' :: afterEquals =>
    match afterEquals.dropWhile isGap with
    | quote :: value =>
      if quote = quotationMark ∨ quote = apostrophe then
        let (content, rest) ← takeQuoted? (value.length + 1) quote [] value
        some ((name, content), rest)
      else none
    | [] => none
  | _ => none

/-- The attributes of a tag and what follows them. White space stands before each. -/
def takeAttributes? : Nat → List (RawName × String) → List Char →
    Option (List (RawName × String) × List Char)
  | 0, _, _ => none
  | fuel + 1, taken, characters =>
    let trimmed := characters.dropWhile isGap
    match trimmed with
    | [] => none
    | first :: _ =>
      if first = '>' ∨ first = '/' then some (taken.reverse, trimmed)
      else if trimmed.length = characters.length then none
      else
        match takeAttribute? trimmed with
        | some (entry, rest) =>
          if taken.any fun other => other.1 = entry.1 then none
          else takeAttributes? fuel (entry :: taken) rest
        | none => none

/-- The namespaces in force, by prefix; the empty prefix is for names without one. -/
abbrev Spaces := List (String × String)

/-- The namespace of the prefix `xml`. -/
def standardSpace : String := "http://www.w3.org/XML/1998/namespace"

/-- The namespace of the prefix `xmlns`, with which namespaces are declared. -/
def declarationSpace : String := "http://www.w3.org/2000/xmlns/"

/-- The namespaces that are in force everywhere. -/
def initialSpaces : Spaces := [("xml", standardSpace)]

/-- Whether a prefix may stand for a namespace. The prefix `xml` keeps its own namespace, `xmlns` is
never declared, and no other prefix takes the namespaces of these two. -/
def maySpell (label space : String) : Bool :=
  if label = "xml" then space = standardSpace
  else label ≠ "xmlns" && space ≠ standardSpace && space ≠ declarationSpace

/-- The namespaces in force inside a tag with these attributes. A prefix cannot be taken back. -/
def extendSpaces? : Spaces → List (RawName × String) → Option Spaces
  | spaces, [] => some spaces
  | spaces, (name, value) :: rest =>
    if name = ⟨none, "xmlns"⟩ then
      if maySpell "" value then extendSpaces? (("", value) :: spaces) rest else none
    else if name.space = some "xmlns" then
      if !value.isEmpty && maySpell name.label value then
        extendSpaces? ((name.label, value) :: spaces) rest
      else none
    else extendSpaces? spaces rest

/-- The namespace of a prefix. -/
def space? (spaces : Spaces) (label : String) : Option String :=
  (spaces.find? fun entry => entry.1 = label).map Prod.snd

/-- The name of an element in the namespaces in force. -/
def elementName? (spaces : Spaces) (name : RawName) : Option Name :=
  match name.space with
  | some label => (space? spaces label).map fun space => ⟨space, name.label⟩
  | none => some ⟨(space? spaces "").getD "", name.label⟩

/-- The name of an attribute in the namespaces in force. -/
def attributeName? (spaces : Spaces) (name : RawName) : Option Name :=
  match name.space with
  | some label => (space? spaces label).map fun space => ⟨space, name.label⟩
  | none => some (.plain name.label)

/-- Whether an attribute declares a namespace. -/
def declaresSpace (name : RawName) : Bool :=
  name.space = some "xmlns" || name = ⟨none, "xmlns"⟩

/-- The attributes of a tag with their namespaces; two of one name are refused. -/
def resolveAttributes? (spaces : Spaces) (attributes : List (RawName × String)) :
    Option (List (Name × String)) := do
  let resolved ← (attributes.filter fun entry => !declaresSpace entry.1).mapM fun entry =>
    (attributeName? spaces entry.1).map fun name => (name, entry.2)
  if (resolved.map Prod.fst).Nodup then some resolved else none

/-- An element that is open: its written name, and the namespaces in force inside it. -/
structure Frame where
  name : RawName
  spaces : Spaces

/-- What a tag opens, and what follows it. -/
structure StartTag where
  name : RawName
  spaces : Spaces
  event : Event
  empty : Bool
  rest : List Char

/-- A start tag after its `<`. -/
def takeStartTag? (outer : Spaces) (characters : List Char) : Option StartTag := do
  let (name, afterName) ← takeName? characters
  let (attributes, afterAttributes) ←
    takeAttributes? (afterName.length + 1) [] afterName
  let spaces ← extendSpaces? outer attributes
  let element ← elementName? spaces name
  let resolved ← resolveAttributes? spaces attributes
  match afterAttributes with
  | '>' :: rest => some ⟨name, spaces, .opened element resolved, false, rest⟩
  | '/' :: '>' :: rest => some ⟨name, spaces, .opened element resolved, true, rest⟩
  | _ => none

/-- The rest after an end tag for a name, given after its `</`. -/
def takeEndTag? (name : RawName) (characters : List Char) : Option (List Char) := do
  let (found, rest) ← takeName? characters
  match rest.dropWhile isGap with
  | '>' :: after => if found = name then some after else none
  | _ => none

/-- Splits a text at the first occurrence of a mark, which is dropped. -/
def splitAt? (mark : List Char) : List Char → List Char → Option (List Char × List Char)
  | _, [] => none
  | taken, character :: rest =>
    if mark.isPrefixOf (character :: rest) then
      some (taken.reverse, (character :: rest).drop mark.length)
    else splitAt? mark (character :: taken) rest

/-- Whether all characters are legal. -/
def allLegal (characters : List Char) : Bool :=
  characters.all fun character => isLegalCode character.toNat

/-- The rest after a comment, given after its opening. Two hyphens stand only at its end. -/
def skipComment? (characters : List Char) : Option (List Char) := do
  let (content, rest) ← splitAt? "--".toList [] characters
  match rest with
  | '>' :: after => if allLegal content then some after else none
  | _ => none

/-- The rest after an instruction, given after its `<?`. -/
def skipInstruction? (characters : List Char) : Option (List Char) := do
  let (target, afterTarget) ← takeLabel? characters
  if target.toLower = "xml" then none
  else
    let (content, rest) ← splitAt? "?>".toList [] afterTarget
    if allLegal content ∧ (content.isEmpty ∨ content.head?.any isGap = true) then some rest
    else none

/-- A literal section after its opening: its text and what follows it. -/
def takeLiteral? (characters : List Char) : Option (String × List Char) := do
  let (content, rest) ← splitAt? "]]>".toList [] characters
  if allLegal content then some (String.ofList content, rest) else none

/-- What the characters at the front of content mean. -/
inductive ContentStep where
  | stop
  | events (events : List Event) (frames : List Frame) (rest : List Char)

/-- A start tag in content or at the root. -/
def stepStart (frames : List Frame) (spaces : Spaces) (characters : List Char) : ContentStep :=
  match takeStartTag? spaces characters with
  | none => .stop
  | some tag =>
    if tag.empty then .events [tag.event, .closed] frames tag.rest
    else .events [tag.event] (⟨tag.name, tag.spaces⟩ :: frames) tag.rest

/-- Plain text up to the next mark. The end mark of a literal section may not stand in it. -/
def stepText (frames : List Frame) (characters : List Char) : ContentStep :=
  let isMark (character : Char) := character = '<' ∨ character = '&'
  let content := characters.takeWhile fun character => !isMark character
  let rest := characters.dropWhile fun character => !isMark character
  if allLegal content && (splitAt? "]]>".toList [] content).isNone then
    .events [.text (String.ofList content)] frames rest
  else .stop

/-- One step inside the element that is open. -/
def stepContent (frame : Frame) (outer : List Frame) (characters : List Char) : ContentStep :=
  let frames := frame :: outer
  match characters with
  | '<' :: '/' :: rest =>
    match takeEndTag? frame.name rest with
    | some after => .events [.closed] outer after
    | none => .stop
  | '<' :: '?' :: rest =>
    match skipInstruction? rest with
    | some after => .events [] frames after
    | none => .stop
  | '<' :: '!' :: '-' :: '-' :: rest =>
    match skipComment? rest with
    | some after => .events [] frames after
    | none => .stop
  | '<' :: '!' :: rest =>
    if "[CDATA[".toList.isPrefixOf rest then
      match takeLiteral? (rest.drop 7) with
      | some (content, after) => .events [.text content] frames after
      | none => .stop
    else .stop
  | '<' :: rest => stepStart frames frame.spaces rest
  | '&' :: rest =>
    match takeReference? rest with
    | some (value, after) => .events [.text (String.singleton value)] frames after
    | none => .stop
  | _ => stepText frames characters

/-- The rest after white space, comments and instructions outside the root. -/
def skipMisc? : Nat → List Char → Option (List Char)
  | 0, _ => none
  | fuel + 1, characters =>
    match characters.dropWhile isGap with
    | '<' :: '?' :: rest => (skipInstruction? rest).bind (skipMisc? fuel)
    | '<' :: '!' :: '-' :: '-' :: rest => (skipComment? rest).bind (skipMisc? fuel)
    | rest => some rest

/-- The parts of a document inside and after its root. Every step takes at least one character. -/
def scanContent : Nat → List Frame → List Char → Scan
  | 0, _, _ => ⟨[], false⟩
  | _ + 1, [], characters =>
    match skipMisc? (characters.length + 1) characters with
    | some [] => ⟨[], true⟩
    | _ => ⟨[], false⟩
  | _ + 1, _ :: _, [] => ⟨[], false⟩
  | fuel + 1, frame :: outer, character :: rest =>
    match stepContent frame outer (character :: rest) with
    | .stop => ⟨[], false⟩
    | .events events frames after =>
      let later := scanContent fuel frames after
      ⟨events ++ later.events, later.wellFormed⟩

/-- The rest after a document type without declarations of its own, if there is one. -/
def skipDocumentType? (characters : List Char) : Option (List Char) :=
  if "<!DOCTYPE".toList.isPrefixOf characters then
    let body := characters.drop 9
    let content := body.takeWhile (· ≠ '>')
    match body.dropWhile (· ≠ '>') with
    | '>' :: rest =>
      if content.head?.any isGap = true ∧ content.contains '[' = false then some rest else none
    | _ => none
  else some characters

/-- The attributes of a declaration up to its end. -/
def takeDeclared? : Nat → List (RawName × String) → List Char →
    Option (List (RawName × String) × List Char)
  | 0, _, _ => none
  | fuel + 1, taken, characters =>
    match characters.dropWhile isGap with
    | '?' :: '>' :: rest => some (taken.reverse, rest)
    | trimmed =>
      if trimmed.length = characters.length then none
      else
        match takeAttribute? trimmed with
        | some (entry, rest) => takeDeclared? fuel (entry :: taken) rest
        | none => none

/-- The encodings that a declaration may name for a text that is stored as UTF-8. -/
def isEncoding (name : String) (characters : List Char) : Bool :=
  let lower := name.toLower
  lower = "utf-8" ||
    (["us-ascii", "ascii", "iso-8859-1", "latin-1", "windows-1252", "utf8"].contains lower &&
      characters.all fun character => character.toNat < 0x80)

/-- Whether a character may stand in the version of a declaration. -/
def isVersionCharacter (character : Char) : Bool :=
  character.isAlphanum || character = '_' || character = '.' || character = '-'

/-- Whether a declaration has its parts in order: version, then perhaps encoding, then perhaps
standing. -/
def isDeclaration (declared : List (RawName × String)) (characters : List Char) : Bool :=
  let plain := declared.map fun entry => (entry.1.space.isNone, entry.1.label, entry.2)
  let isStanding (value : String) := value = "yes" || value = "no"
  let isVersion (value : String) := value.toList.all isVersionCharacter
  match plain with
  | [(true, "version", version)] => isVersion version
  | [(true, "version", version), (true, "encoding", name)] =>
    isVersion version && isEncoding name characters
  | [(true, "version", version), (true, "standalone", standing)] =>
    isVersion version && isStanding standing
  | [(true, "version", version), (true, "encoding", name), (true, "standalone", standing)] =>
    isVersion version && isEncoding name characters && isStanding standing
  | _ => false

/-- The rest after a declaration, if there is one. It stands at the very front. -/
def skipDeclaration? (characters : List Char) : Option (List Char) :=
  if "<?xml".toList.isPrefixOf characters ∧ (characters.drop 5).head?.any isGap = true then
    match takeDeclared? (characters.length + 1) [] (characters.drop 5) with
    | some (declared, rest) => if isDeclaration declared characters then some rest else none
    | none => none
  else some characters

/-- The rest in front of the root element. -/
def skipProlog? (characters : List Char) : Option (List Char) := do
  let afterDeclaration ← skipDeclaration? characters
  let beforeType ← skipMisc? (afterDeclaration.length + 1) afterDeclaration
  let afterType ← skipDocumentType? beforeType
  skipMisc? (afterType.length + 1) afterType

/-- The byte order mark that may stand in front of a document. -/
def byteOrderMark : Char := Char.ofNat 0xfeff

/-- Scans a document. -/
def scan (content : String) : Scan :=
  let characters := unifyLines content.toList
  let document := if characters.head? = some byteOrderMark then characters.drop 1 else characters
  match skipProlog? document with
  | some ('<' :: rest) =>
    match stepStart [] initialSpaces rest with
    | .stop => ⟨[], false⟩
    | .events events frames after =>
      let later := scanContent (after.length + 2) frames after
      ⟨events ++ later.events, later.wellFormed⟩
  | _ => ⟨[], false⟩

end SheetIntake.Markup
