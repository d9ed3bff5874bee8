import Depot.Blobs.Address
import Depot.Blobs.Disk
import Depot.Blobs.Memory

/-!
A store of contents: in memory or on disk. Every operation gives its result together with the store
it leaves behind.
-/

namespace Depot.Blobs

inductive Store
  | memory (blobs : Memory)
  | disk (disk : Disk)

namespace Store

def upload (store : Store) (path : String) (content : Content) :
    Except BackendFailure Unit × Store :=
  match store with
  | memory blobs => (.ok (), memory (blobs.put path content))
  | disk tree =>
    let (result, tree) := tree.upload path content.bytes
    (result, disk tree)

def delete (store : Store) (path : String) : Except BackendFailure Unit × Store :=
  match store with
  | memory blobs => (.ok (), memory (blobs.erase path))
  | disk tree =>
    let (result, tree) := tree.delete path
    (result, disk tree)

def contains : Store → String → Except BackendFailure Bool
  | memory blobs, path => .ok (blobs.contains path)
  | disk tree, path => tree.contains path

def copy (store : Store) (source target : String) : Except BackendFailure Unit × Store :=
  match store with
  | memory blobs =>
    match blobs.copy source target with
    | .ok blobs => (.ok (), memory blobs)
    | .error failure => (.error failure, memory blobs)
  | disk tree =>
    let (result, tree) := tree.copy source target
    (result, disk tree)

/-- An address that can be used for some minutes. On disk the path has to be an accepted one. -/
def signedUrl (store : Store) (book : AddressBook) (now : Instant) (path : String)
    (minutes : Nat) : Except BackendFailure String :=
  match store with
  | memory _ => .ok (book.briefUrl path minutes)
  | disk _ =>
    if isPlain path then .ok (book.signedUrl now path minutes) else .error (Disk.refusal path)

end Store

end Depot.Blobs
