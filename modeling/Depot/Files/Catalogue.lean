import Depot.Files.File

/-!
The stored file records, in the order in which they were added. Identifiers are unique and so are
paths; stored records carry no events. The files of an entity are listed the newest first, and of
files of the same time the one added last comes first.
-/

namespace Depot.Files

structure Catalogue where
  records : List File := []
deriving Repr

namespace Catalogue

def findById? (files : Catalogue) (id : Uuid) : Option File := files.records.find? (·.id = id)

def findByPath? (files : Catalogue) (path : String) : Option File :=
  files.records.find? (·.path.text = path)

/-- Whether one file comes before another, or beside it, in a list with the newest first. -/
def newerOrSame (a b : File) : Bool := b.createdAt.le a.createdAt

def ofEntity (files : Catalogue) (entityType entityId : String) : List File :=
  (files.records.reverse.filter (·.ownedBy entityType entityId)).mergeSort newerOrSame

def current? (files : Catalogue) (owner : Owner) : Option File :=
  (files.ofEntity owner.entityType owner.entityId).find? (·.owner.field = owner.field)

def insert (files : Catalogue) (file : File) : Except Failure Catalogue :=
  if files.records.any (·.id = file.id) then
    .error (.alreadyExists ("file " ++ file.id.text))
  else if files.records.any (·.path = file.path) then
    .error (.alreadyExists ("file path " ++ file.path.text))
  else .ok ⟨files.records ++ [file.detached]⟩

def replaceFirst (file : File) : List File → List File
  | [] => []
  | old :: rest => if old.id = file.id then file :: rest else old :: replaceFirst file rest

def update (files : Catalogue) (file : File) : Except Failure Catalogue :=
  if files.records.any (·.id = file.id) then .ok ⟨replaceFirst file.detached files.records⟩
  else .error (.notFound file.id)

def eraseFirst (id : Uuid) : List File → List File
  | [] => []
  | file :: rest => if file.id = id then rest else file :: eraseFirst id rest

def erase (files : Catalogue) (id : Uuid) : Catalogue := ⟨eraseFirst id files.records⟩

def eraseOfEntity (files : Catalogue) (entityType entityId : String) : Catalogue :=
  ⟨files.records.filter (!·.ownedBy entityType entityId)⟩

def countOfEntity (files : Catalogue) (entityType entityId : String) : Nat :=
  (files.records.filter (·.ownedBy entityType entityId)).length

/-- Files taken over as they are given, without their events. -/
def ofList (files : List File) : Catalogue := ⟨files.map File.detached⟩

end Catalogue

end Depot.Files
