import Depot.Accounts.Form
import Depot.Files.File

/-!
The JSON form of whole file records, and of events with their stamps.
-/

namespace Depot.Files

def Event.json (event : Event) : Json :=
  .obj (event.stamp.members event.topic.typeName event.topic.name ++
    ("kind", event.payload.json) ::
      (event.payload.isUserAvatar?.map fun b => ("is_user_avatar", Json.bool b)).toList)

def Metadata.members (data : Metadata) : List (String × Json) :=
  [("mime_type", .str data.mimeType), ("size", .nat data.size),
    ("width", .ofOption .nat data.width), ("height", .ofOption .nat data.height)]

def Metadata.ofJson (json : Json) : Metadata :=
  ⟨json.textAt "mime_type", (json.natAt? "size").getD 0, json.natAt? "width",
    json.natAt? "height"⟩

def Path.members (path : Path) : List (String × Json) :=
  [("text", .str path.text), ("environment", .str path.environment),
    ("year", .int path.year.toInt), ("month", .nat path.month),
    ("entity_type", .str path.entityType), ("entity_id", .str path.entityId),
    ("filename", .str path.filename)]

def Owner.ofParts : Json → Owner
  | .arr [.str entityType, .str entityId, .str field] => ⟨entityType, entityId, field⟩
  | _ => ⟨"", "", ""⟩

def File.json (file : File) : Json :=
  .obj ([("id", file.id.json), ("owner", file.owner.json), ("filename", .str file.filename),
    ("path", .str file.path.text)] ++ file.metadata.members ++
    [("created_at", file.createdAt.json), ("updated_at", file.updatedAt.json)])

def File.ofJson (json : Json) (usual : Instant) : Except Failure File :=
  match Path.parse (json.textAt "path") with
  | .error fault => .error fault.failure
  | .ok path => .ok {
      id := json.uuidAt "id"
      owner := .ofParts (json.field "owner")
      filename := json.textAt "filename"
      path
      metadata := .ofJson json
      createdAt := json.instantAt "created_at" usual
      updatedAt := json.instantAt "updated_at" usual }

end Depot.Files
