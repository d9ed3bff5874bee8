import Depot.Accounts.User
import Depot.Files.Failure
import Depot.Json.Value

/-!
Replies of the service, and which status and code each failure is answered with.
-/

namespace Depot.Service

inductive Body
  | empty
  | json (value : Json)
  | plain (text : String)
  | bytes (content : ByteArray)

structure Reply where
  status : Nat
  mediaType : Option String
  body : Body

/-- What of a request cannot be read. The words for it are those of the framework that reads it. -/
inductive Unreadable
  | pathPart
  | identifier
  | query
  | mediaType
  | size
  | json
  | form
deriving DecidableEq, Repr

def Unreadable.status : Unreadable → Nat
  | pathPart | identifier | query | json => 400
  | size => 413
  | mediaType => 415
  | form => 422

inductive Refusal
  | unreadable (what : Unreadable)
  | unknown (status : Nat)
  | accounts (failure : Failure)
  | files (failure : Files.FileFailure)
  | forbidden (reason : String)

def failureStatus : Failure → Nat × String
  | .notFound _ => (404, "aggregate_not_found")
  | .alreadyExists _ => (409, "already_exists")
  | .invalid _ => (400, "validation_error")
  | .internal _ => (500, "infrastructure_error")

def fileFailureStatus : Files.FileFailure → Nat × String
  | .notFound _ => (404, "file_not_found")
  | .typeRefused .. => (415, "invalid_file_type")
  | .tooLarge .. => (413, "file_too_large")
  | .sidesRefused _ => (400, "invalid_image_dimensions")
  | .uploadRefused _ => (502, "storage_upload_failed")
  | .internal _ => (500, "infrastructure_error")
  | .records failure => failureStatus failure

namespace Reply

def json (status : Nat) (value : Json) : Reply := ⟨status, some "application/json", .json value⟩

def bare (status : Nat) : Reply := ⟨status, none, .empty⟩

def plain (status : Nat) (text : String) : Reply :=
  ⟨status, some "text/plain; charset=utf-8", .plain text⟩

def failed (kind : Nat × String) (message : String) : Reply :=
  json kind.1 (.obj [("error", .str kind.2), ("message", .str message)])

def headOnly (reply : Reply) : Reply := { reply with body := .empty }

end Reply

def Refusal.reply (words : Unreadable → String) : Refusal → Reply
  | unreadable what => .plain what.status (words what)
  | unknown status => .bare status
  | accounts failure => .failed (failureStatus failure) failure.message
  | files failure => .failed (fileFailureStatus failure) failure.message
  | forbidden reason => .failed (403, "forbidden") reason

end Depot.Service
