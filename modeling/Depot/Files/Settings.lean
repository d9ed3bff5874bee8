import Depot.Failure

/-!
The choices left to whoever runs the service: how a file is replaced, and what the removal of an
account does when the content of one of its files cannot be removed.
-/

namespace Depot.Files

inductive ReplaceStrategy
  /-- The old file goes first; if the upload fails there is no file. -/
  | deleteThenUpload
  /-- The new file comes first; if the removal of the old one fails, its content is left over. -/
  | uploadThenSwap
deriving DecidableEq, Repr, Inhabited

namespace ReplaceStrategy

def text : ReplaceStrategy → String
  | deleteThenUpload => "delete-then-upload"
  | uploadThenSwap => "upload-then-swap"

def ofText? : String → Option ReplaceStrategy
  | "delete-then-upload" => some deleteThenUpload
  | "upload-then-swap" => some uploadThenSwap
  | _ => none

def parse (s : String) : Except Failure ReplaceStrategy :=
  match ofText? s with
  | some strategy => .ok strategy
  | none => .error (.invalid ("unknown replace strategy: " ++ s))

end ReplaceStrategy

/-- What the removal of an account's files does when one content cannot be removed. -/
structure CascadePolicy where
  /-- Go on with the other contents, and remove all records in the end. -/
  continueOnItemFailure : Bool := true
deriving DecidableEq, Repr

structure Settings where
  environment : String := "development"
  replaceStrategy : ReplaceStrategy := .deleteThenUpload
  cascade : CascadePolicy := {}
deriving DecidableEq, Repr

end Depot.Files
