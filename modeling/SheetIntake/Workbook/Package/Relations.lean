import SheetIntake.Workbook.Package.Basic

/-!
# Relations of parts

A part refers to other parts by identifiers. Their meaning stands in a relations part of its own,
in a folder beside the part. A target is a path from the folder of the part, or, with a stroke in
front, from the top of the package.
-/

namespace SheetIntake.Workbook

open Markup

/-- A reference to a part: its kind, and the name of the part. -/
structure Relation where
  kind : String
  target : String
  deriving DecidableEq, Repr

/-- References by their identifier. An element without an identifier has none. -/
abbrev Relations := List (Option String × Relation)

namespace Relations

/-- The parts of a path between strokes. -/
def segments (path : List Char) : List (List Char) :=
  (path.splitOn '/')

/-- A path without empty parts and parts `.`, where a part `..` takes away the part before it.
Kept parts are held in reverse. -/
def normalSegments : List (List Char) → List (List Char) → List (List Char)
  | kept, [] => kept.reverse
  | kept, segment :: rest =>
    if segment = [] ∨ segment = ['.'] then normalSegments kept rest
    else if segment = ['.', '.'] then
      match kept with
      | [] => normalSegments [segment] rest
      | last :: before =>
        if last = ['.', '.'] then normalSegments (segment :: kept) rest
        else normalSegments before rest
    else normalSegments (segment :: kept) rest

/-- Parts of a path joined by strokes. -/
def joinSegments (parts : List (List Char)) : String :=
  "/".intercalate (parts.map String.ofList)

/-- The folder of a part and its own name in it. -/
def splitName (name : String) : List (List Char) × List Char :=
  let parts := segments name.toList
  (parts.dropLast, parts.getLast?.getD [])

/-- The name of the relations part of a part. -/
def partName (name : String) : String :=
  let (folder, own) := splitName name
  joinSegments (folder ++ ["_rels".toList, own ++ ".rels".toList])

/-- The part that a target means, seen from a folder. -/
def resolve (folder : List (List Char)) (target : String) : String :=
  match target.toList with
  | '/' :: rest => String.ofList rest
  | characters =>
    let path := joinSegments (normalSegments [] (folder ++ segments characters))
    if path.isEmpty then "." else path

/-- One reference, or nothing if the element is none. -/
def readOne? (folder : List (List Char)) (element : Element) : Option (Option String × Relation) :=
  let kind := (element.attribute? "type").elim (element.attribute? "Type") fun short =>
    some (referenceSpace ++ "/" ++ short)
  match kind, element.attribute? "Target" with
  | some kind, some target =>
    if hasShape element ["Target"] ["Id", "Type", "type", "TargetMode"] then
      let place :=
        if element.attribute? "TargetMode" = some "External" then target
        else resolve folder target
      some (element.attribute? "Id", ⟨kind, place⟩)
    else none
  | _, _ => none

/-- The references in the root element of a relations part of a part. If one of them is malformed
there are none at all. -/
def read (name : String) (root : Element) : Relations :=
  (root.children.mapM (readOne? (splitName name).1)).getD []

/-- The references of a part, whose relations part has to be there. -/
def ofPackage (package : Package) (name : String) : Except OpeningFailure Relations := do
  return read name (← package.requireRoot (partName name))

/-- The reference with an identifier. Of several the last counts. -/
def find (relations : Relations) (identifier : String) : Except OpeningFailure Relation :=
  match Assoc.get? relations.reverse (some identifier) with
  | some relation => .ok relation
  | none => .error (.missingKey (Text.quoted identifier))

end Relations

end SheetIntake.Workbook
