import SheetIntake.Store.Batch
import SheetIntake.Value

/-!
# Answers

A request is answered with data or refused. A refusal carries a status and a text for the client,
which never says more than the client has to know.
-/

namespace SheetIntake.Service

/-- The statuses with which requests are answered. -/
inductive Status where
  | ok
  | badRequest
  | notFound
  | methodNotAllowed
  | payloadTooLarge
  | serverError
  deriving DecidableEq, Repr

/-- The number of a status. -/
def Status.code : Status → Nat
  | ok => 200
  | badRequest => 400
  | notFound => 404
  | methodNotAllowed => 405
  | payloadTooLarge => 413
  | serverError => 500

/-- Why a request is not answered with data. -/
structure Refusal where
  status : Status
  message : String
  deriving DecidableEq, Repr

/-- Data, or a refusal. -/
abbrev Answer (α : Type) := Except Refusal α

namespace Refusal

/-- The refusal of a request that the client has to correct. -/
def badRequest (message : String) : Refusal := ⟨.badRequest, message⟩

/-- The refusal of a file that is too long. -/
def tooLarge (limit : Int) : Refusal :=
  ⟨.payloadTooLarge, "File too large. Maximum size is " ++ toString limit ++ " bytes."⟩

/-- The refusal after a failure that nobody foresaw. -/
def serverError (message : String) : Refusal := ⟨.serverError, message⟩

/-- What a refusal sends to the client. -/
def body (refusal : Refusal) : Row := [("error", .text refusal.message)]

end Refusal

end SheetIntake.Service
