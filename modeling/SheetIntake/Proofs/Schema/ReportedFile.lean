import SheetIntake.Proofs.Json.Nesting
import SheetIntake.Schema.Registry

/-!
# Which schema files are reported

A schema file that cannot be used is to be reported as a schema fault. Two kinds of files fail in
another way: those that are not UTF-8, and those whose text nests deeper than it is read. All others
are either loaded or reported.
-/

namespace SheetIntake.Registry

open Json

/-- The content of a schema file gives a registry or is reported as a schema fault. -/
def IsReported (nesting : Nat) (content : ByteArray) : Prop :=
  (∃ registry, load nesting (.file content) = .ok registry) ∨
    ∃ fault, load nesting (.file content) = .error (.schema fault)

variable {nesting : Nat} {content : ByteArray} {text : String}

end SheetIntake.Registry
