import FeedOperator.Text.Quoted

/-!
# Errors of the resource store

A write that was prepared from an outdated read is a conflict. Everything else that the store
refuses, does not understand or does not answer is a failure of its own.

Model of `StoreError` with `is_conflict` (specification 10.2).
-/

namespace FeedOperator

/-- What an API server says when it refuses a request. -/
structure ApiFailure where
  status : String
  message : String
  reason : String
  code : Nat
  deriving DecidableEq

/-- The failure in words: message and reason, then all four parts. -/
def ApiFailure.text (f : ApiFailure) : String :=
  "ApiError: " ++ f.message ++ ": " ++ f.reason ++ " (ErrorResponse \x7b status: " ++
    Text.Quoted.encode f.status ++ ", message: " ++ Text.Quoted.encode f.message ++
    ", reason: " ++ Text.Quoted.encode f.reason ++ ", code: " ++
    String.ofList (Text.decimal f.code) ++ " \x7d)"

/-- Why a call to the store came to nothing. -/
inductive StoreError where
  /-- The object was written since it was read. -/
  | conflict (name : String)
  /-- The server refused the call. -/
  | refused (failure : ApiFailure)
  /-- The answer of the server does not decode. -/
  | unreadable (detail : String)
  /-- The call makes no request. -/
  | invalidRequest (detail : String)
  /-- The server was not reached. -/
  | unreachable (detail : String)
  /-- The object has no JSON form. -/
  | serialization (detail : String)
  /-- The object to be written lacks a field. -/
  | missingField (field : String)
  deriving DecidableEq

namespace StoreError

/-- Whether a fresh read may help. -/
def isConflict : StoreError → Bool
  | .conflict _ => true
  | _ => false

/-- The error in words. -/
def message : StoreError → String
  | .conflict name => "write conflict on " ++ name ++ ", object was modified"
  | .refused failure => "Kubernetes API error: " ++ failure.text
  | .unreadable detail => "Kubernetes API error: " ++ detail
  | .invalidRequest detail => "Kubernetes API error: " ++ detail
  | .unreachable detail => "Kubernetes API error: " ++ detail
  | .serialization detail => "serialization error: " ++ detail
  | .missingField field => "Missing required field: " ++ field

end StoreError

end FeedOperator
