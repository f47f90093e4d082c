import SheetIntake.Markup.Scanner

/-!
# Trees of markup documents

Elements are put together from the parts of a scan. `ended` lists all elements in the order in
which they end; `root?` is the element around all others, and exists only for a document that is
well formed.
-/

namespace SheetIntake.Markup

/-- An element under construction. Text and children are held in reverse. -/
structure OpenElement where
  name : Name
  attributes : List (Name × String)
  text : List String
  children : List Element

namespace OpenElement

/-- The element with what has been added so far. -/
def finish (part : OpenElement) : Element :=
  .mk part.name part.attributes ("".intercalate part.text.reverse) part.children.reverse

/-- Adds text; it counts only before the first child. -/
def addText (part : OpenElement) (content : String) : OpenElement :=
  if part.children.isEmpty then { part with text := content :: part.text } else part

/-- Adds a child. -/
def addChild (part : OpenElement) (child : Element) : OpenElement :=
  { part with children := child :: part.children }

end OpenElement

/-- The elements that end among the events, in order, inside the elements that are open. -/
def endedIn : List OpenElement → List Event → List Element
  | _, [] => []
  | opened, .opened name attributes :: rest => endedIn (⟨name, attributes, [], []⟩ :: opened) rest
  | [], .text _ :: rest => endedIn [] rest
  | part :: outer, .text content :: rest => endedIn (part.addText content :: outer) rest
  | [], .closed :: rest => endedIn [] rest
  | [part], .closed :: rest => part.finish :: endedIn [] rest
  | part :: parent :: outer, .closed :: rest =>
    part.finish :: endedIn (parent.addChild part.finish :: outer) rest

/-- The elements of a scan in the order in which they end. -/
def Scan.ended (scan : Scan) : List Element := endedIn [] scan.events

/-- The root element of a text that is a well-formed document. -/
def root? (content : String) : Option Element :=
  let result := scan content
  if result.wellFormed then result.ended.getLast? else none

end SheetIntake.Markup
