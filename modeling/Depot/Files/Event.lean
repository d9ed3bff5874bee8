import Depot.Event
import Depot.Files.Owner

/-!
What happens to files: they are uploaded, and they are deleted through their owner. The payload of
an event has a JSON form, an object whose one member is named for the kind of event.
-/

namespace Depot.Files

inductive Topic
  | fileUploaded
  | fileDeleted
deriving DecidableEq, Repr

namespace Topic

def name : Topic → String
  | fileUploaded => "FileUploaded"
  | fileDeleted => "FileDeleted"

def ofName? : String → Option Topic
  | "FileUploaded" => some fileUploaded
  | "FileDeleted" => some fileDeleted
  | _ => none

def typeName : Topic → String
  | fileUploaded => "storage.file_uploaded"
  | fileDeleted => "storage.file_deleted"

end Topic

inductive Payload
  | uploaded (file : Uuid) (owner : Owner) (path mimeType : String) (size : Nat)
  | deleted (file : Uuid) (owner : Owner) (path : String)
deriving DecidableEq, Repr

namespace Payload

def topic : Payload → Topic
  | uploaded .. => .fileUploaded
  | deleted .. => .fileDeleted

/-- Whether an upload gave a user a new picture of themselves; deletions are not asked. -/
def isUserAvatar? : Payload → Option Bool
  | uploaded _ owner _ _ _ => some (owner.entityType == "user" && owner.field == "avatar")
  | deleted .. => none

def sharedMembers (file : Uuid) (owner : Owner) (path : String) : List (String × Json) :=
  [("file_id", file.json), ("entity_type", .str owner.entityType),
    ("entity_id", .str owner.entityId), ("field", .str owner.field), ("path", .str path)]

def json (payload : Payload) : Json :=
  .obj [(payload.topic.name, match payload with
    | uploaded file owner path mimeType size =>
      .obj (sharedMembers file owner path ++ [("mime_type", .str mimeType), ("size", .nat size)])
    | deleted file owner path => .obj (sharedMembers file owner path))]

def uploadedOfJson? (json : Json) : Option Payload :=
  match json.record?
      ["file_id", "entity_type", "entity_id", "field", "path", "mime_type", "size"] with
  | some [some file, some entityType, some entityId, some field, some path, some mimeType,
      some size] => do
    return uploaded (← Uuid.ofJson? file)
      ⟨← entityType.string?, ← entityId.string?, ← field.string?⟩ (← path.string?)
      (← mimeType.string?) (← size.natUpTo? Text.maxWord64)
  | _ => none

def deletedOfJson? (json : Json) : Option Payload :=
  match json.record? ["file_id", "entity_type", "entity_id", "field", "path"] with
  | some [some file, some entityType, some entityId, some field, some path] => do
    return deleted (← Uuid.ofJson? file)
      ⟨← entityType.string?, ← entityId.string?, ← field.string?⟩ (← path.string?)
  | _ => none

def ofJson? (json : Json) : Option Payload := do
  let (name, content) ← json.tagged?
  match ← Topic.ofName? name with
  | .fileUploaded => uploadedOfJson? content
  | .fileDeleted => deletedOfJson? content

end Payload

structure Event where
  stamp : Stamp
  payload : Payload
deriving DecidableEq, Repr

namespace Event

def topic (event : Event) : Topic := event.payload.topic

def record (event : Event) : Uuid := event.stamp.record

def of (record correlation : Uuid) (time : Instant) (payload : Payload) : Event :=
  ⟨⟨payload.topic.typeName, record, correlation, time⟩, payload⟩

end Event

end Depot.Files
