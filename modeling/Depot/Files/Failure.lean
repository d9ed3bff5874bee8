import Depot.Failure
import Depot.BackendFailure
import Depot.Number.Double

/-!
What can go wrong with files, and the wording of each case.
-/

namespace Depot.Files

inductive FileFailure
  | notFound (what : String)
  /-- The type of the content is unknown, or not one of those allowed. -/
  | typeRefused (detected : Option String) (allowed : List String)
  | tooLarge (actual limit : Nat)
  | sidesRefused (reason : String)
  /-- The store did not take the content; nothing was recorded. -/
  | uploadRefused (cause : String)
  /-- A service failed in another step. -/
  | internal (cause : String)
  | records (failure : Failure)
deriving DecidableEq, Repr

namespace FileFailure

def typeMessage : Option String → List String → String
  | none, _ => "Invalid or unrecognized file type"
  | some mimeType, [] => "File type '" ++ mimeType ++ "' is not allowed"
  | some mimeType, allowed =>
    "File type '" ++ mimeType ++ "' is not allowed. Allowed: " ++ ", ".intercalate allowed

def message : FileFailure → String
  | notFound what => "File '" ++ what ++ "' not found"
  | typeRefused detected allowed => typeMessage detected allowed
  | tooLarge actual limit =>
    "File size (" ++ Number.megabytes actual ++ "MB) exceeds maximum allowed size (" ++
      Number.megabytes limit ++ "MB)"
  | sidesRefused reason => reason
  | uploadRefused cause => "Failed to upload file: " ++ cause
  | internal cause => "storage infrastructure error: " ++ cause
  | records failure => failure.message

def ofBackend (failure : BackendFailure) : FileFailure := internal failure.message

def failure : FileFailure → Failure
  | records inner => inner
  | other => .internal other.message

end FileFailure

end Depot.Files
