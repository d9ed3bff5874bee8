import Depot.Service.Target

/-!
What a path of the service names. A part may be empty unless it is the last one; fixed words go
before parts that may be anything.
-/

namespace Depot.Service

/-- A place of the service, with the parts of its path as they are written. -/
inductive Resource
  | health
  | users
  | provision
  | user (id : String)
  | slot (entityType entityId field : String)
  | slotLink (entityType entityId field : String)
  | file (id : String)
  | fileLink (id : String)
  | blob (path : String)
deriving DecidableEq, Repr

namespace Resource

def ofUserParts : List String → Option Resource
  | [] => some users
  | ["provision"] => some provision
  | [id] => if id.isEmpty then none else some (user id)
  | _ => none

/-- The resource of four parts below the files: only an address is found there. -/
def ofLinkParts (a b c : String) (last : String) : Option Resource :=
  if last = "url" then some (slotLink a b c) else none

def ofFileParts : List String → Option Resource
  | [first, id] => if first = "id" ∧ !id.isEmpty then some (file id) else none
  | [a, b, c] =>
    if a = "id" ∧ c = "url" then some (fileLink b)
    else if c.isEmpty then none
    else some (slot a b c)
  | [a, b, c, last] => ofLinkParts a b c last
  | _ => none

def ofPath (path : String) : Option Resource :=
  match Text.segments path with
  | ["", "health"] => some health
  | "" :: "api" :: "v1" :: "users" :: parts => ofUserParts parts
  | "" :: "api" :: "v1" :: "files" :: parts => ofFileParts parts
  | "" :: "files" :: parts =>
    let rest := "/".intercalate parts
    if rest.isEmpty then none else some (blob rest)
  | _ => none

end Resource

end Depot.Service
