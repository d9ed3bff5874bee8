import Depot.BackendFailure

/-!
Contents kept in memory: a map from paths to bytes with their media type. Every text is a path.
-/

namespace Depot.Blobs

structure Content where
  bytes : ByteArray
  mimeType : String

structure Memory where
  entries : List (String × Content) := []

namespace Memory

def get? (blobs : Memory) (path : String) : Option Content := blobs.entries.lookup path

def contains (blobs : Memory) (path : String) : Bool := (blobs.get? path).isSome

def putEntry (path : String) (content : Content) :
    List (String × Content) → List (String × Content)
  | [] => [(path, content)]
  | entry :: rest =>
    if entry.1 = path then (path, content) :: rest else entry :: putEntry path content rest

def put (blobs : Memory) (path : String) (content : Content) : Memory :=
  ⟨putEntry path content blobs.entries⟩

def erase (blobs : Memory) (path : String) : Memory := ⟨blobs.entries.filter (·.1 ≠ path)⟩

def copy (blobs : Memory) (source target : String) : Except BackendFailure Memory :=
  match blobs.get? source with
  | some content => .ok (blobs.put target content)
  | none => .error (.refused ("no blob at " ++ source))

def paths (blobs : Memory) : List String :=
  (blobs.entries.map (·.1)).mergeSort fun a b => !(b < a)

end Memory

end Depot.Blobs
