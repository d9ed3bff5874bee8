import Depot.Json.Value

/-!
The owner of a file: the kind and identifier of an entity, and the slot on it that the file fills.
-/

namespace Depot.Files

structure Owner where
  entityType : String
  entityId : String
  field : String
deriving DecidableEq, Repr

namespace Owner

def text (owner : Owner) : String :=
  owner.entityType ++ "/" ++ owner.entityId ++ "/" ++ owner.field

def json (owner : Owner) : Json :=
  .obj [("entity_type", .str owner.entityType), ("entity_id", .str owner.entityId),
    ("field", .str owner.field)]

def ofJson? (json : Json) : Option Owner :=
  match json.record? ["entity_type", "entity_id", "field"] with
  | some [some entityType, some entityId, some field] => do
    return ⟨← entityType.string?, ← entityId.string?, ← field.string?⟩
  | _ => none

end Owner

end Depot.Files
