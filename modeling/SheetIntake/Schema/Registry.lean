import SheetIntake.Failure
import SheetIntake.Json
import SheetIntake.Schema.Reading

/-!
# The registry of schemas

A registry gives every sheet its schema: the one configured under the sheet's name, or else the
default. A configured schema named `default` takes the place of the built-in one.
-/

namespace SheetIntake

/-- The name under which the fallback schema is configured. -/
def defaultSchemaName : String := "default"

/-- The schemas of sheets: a fallback, and the others by name in file order. -/
structure Registry where
  fallback : Schema
  named : List (String × Schema)

namespace Registry

/-- The registry without any configuration. -/
def builtin : Registry := ⟨.builtin, []⟩

/-- The registry of configured schemas. -/
def ofSchemas (schemas : List (String × Schema)) : Registry where
  fallback := (Assoc.get? schemas defaultSchemaName).getD .builtin
  named := schemas.filter fun entry => entry.1 ≠ defaultSchemaName

/-- The names of the schemas, the fallback's first. -/
def names (registry : Registry) : List String :=
  defaultSchemaName :: Assoc.keys registry.named

/-- The schema of a sheet. -/
def resolve (registry : Registry) (sheet : String) : Schema :=
  (Assoc.get? registry.named sheet).getD registry.fallback

/-- What a registry is made from. -/
inductive Source where
  /-- No file is configured. -/
  | none
  /-- The configured file does not exist. -/
  | absent
  /-- The content of the configured file. -/
  | file (content : ByteArray)

/-- The registry of a schema text, which is read up to a depth of nesting. -/
def ofText (nesting : Nat) (content : String) : Except Failure Registry :=
  match Json.parse nesting content with
  | .error .malformed => .error (.schema .malformed)
  | .error .nestedTooDeeply => .error .nestedTooDeeply
  | .ok value =>
    match Schema.readFile value with
    | .ok schemas => .ok (ofSchemas schemas)
    | .error faults => .error (.schema (.rejected faults))

/-- The registry of a source. A file must be UTF-8 text. -/
def load (nesting : Nat) : Source → Except Failure Registry
  | .none => .ok builtin
  | .absent => .error (.schema .notFound)
  | .file content =>
    match String.fromUTF8? content with
    | Option.none => .error .undecodable
    | some text => ofText nesting text

end Registry

end SheetIntake
