import Depot.Files.Access

/-!
Addresses handed out for files.
-/

namespace Depot.Files

inductive Locator
  | byId (file : Uuid)
  | byOwner (owner : Owner)
deriving DecidableEq, Repr

def Locator.text : Locator → String
  | byId file => file.text
  | byOwner owner => owner.text

def usualMinutes : Nat := 60

structure Link where
  url : String
  filename : String
  mimeType : String
  size : Nat
deriving DecidableEq, Repr

def Link.json (link : Link) : Json :=
  .obj [("url", .str link.url), ("filename", .str link.filename),
    ("mime_type", .str link.mimeType), ("size", .nat link.size)]

variable (env : Env)

def locate (locator : Locator) : Act FileFailure File := do
  let found ← onRecords <| match locator with
    | .byId file => fileById env file
    | .byOwner owner => currentFile env owner
  match found with
  | some file => return file
  | none => throw (.notFound locator.text)

/-- An address of a file: the lasting one, or one for the given minutes. -/
def link (locator : Locator) (minutes : Option Nat) : Act FileFailure Link := do
  let file ← locate env locator
  let url ← match minutes with
    | none => pure (env.book.publicUrl file.path.text)
    | some minutes => onServices (signedUrl env file.path.text minutes)
  return ⟨url, file.filename, file.metadata.mimeType, file.metadata.size⟩

end Depot.Files
