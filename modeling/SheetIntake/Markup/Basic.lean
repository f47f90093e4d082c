/-!
# Markup documents

An element has a name, attributes, the text before its first child, and children. Names of elements
and attributes may belong to a namespace, which is the empty text where there is none.
-/

namespace SheetIntake.Markup

/-- A name in a namespace. -/
structure Name where
  space : String
  label : String
  deriving DecidableEq, Repr, Inhabited

/-- A name without a namespace. -/
def Name.plain (label : String) : Name := ⟨"", label⟩

/-- An element with what it contains. -/
inductive Element where
  | mk (name : Name) (attributes : List (Name × String)) (text : String)
      (children : List Element)
  deriving Inhabited

namespace Element

/-- The name of an element. -/
def name : Element → Name
  | mk name _ _ _ => name

/-- The attributes of an element, in order. -/
def attributes : Element → List (Name × String)
  | mk _ attributes _ _ => attributes

/-- The text before the first child of an element. -/
def text : Element → String
  | mk _ _ text _ => text

/-- The children of an element, in order. -/
def children : Element → List Element
  | mk _ _ _ children => children

/-- The value of an attribute without a namespace. -/
def attribute? (element : Element) (label : String) : Option String :=
  (element.attributes.find? fun entry => entry.1 = Name.plain label).map Prod.snd

/-- The value of an attribute in a namespace. -/
def attributeIn? (element : Element) (space label : String) : Option String :=
  (element.attributes.find? fun entry => entry.1 = ⟨space, label⟩).map Prod.snd

/-- The children with a label, in whatever namespace. -/
def labelled (element : Element) (label : String) : List Element :=
  element.children.filter fun child => child.name.label = label

/-- The first child with a name. -/
def child? (element : Element) (name : Name) : Option Element :=
  element.children.find? fun child => child.name = name

end Element

/-- A part of a document as it is met from the front. -/
inductive Event where
  | opened (name : Name) (attributes : List (Name × String))
  | text (content : String)
  | closed
  deriving DecidableEq, Repr

/-- The parts of a document up to its end or up to the first place where it is not well formed. -/
structure Scan where
  events : List Event
  wellFormed : Bool
  deriving DecidableEq, Repr

end SheetIntake.Markup
