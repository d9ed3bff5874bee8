import Depot.Files.Event
import Depot.Files.Metadata
import Depot.Files.Path

/-!
File records: who owns a file, where its content lies and what is known of it. A record is never
changed in part; new content is a new file. A file keeps the events of its own life until they are
taken away to be delivered.
-/

namespace Depot.Files

structure File where
  id : Uuid
  owner : Owner
  filename : String
  path : Path
  metadata : Metadata
  createdAt : Instant
  updatedAt : Instant
  uncommitted : List Event := []
deriving DecidableEq, Repr

namespace File

def note (file : File) (correlation : Uuid) (time : Instant) (payload : Payload) : File :=
  { file with uncommitted := file.uncommitted ++ [Event.of file.id correlation time payload] }

def create (id : Uuid) (owner : Owner) (filename : String) (path : Path) (metadata : Metadata)
    (correlation : Uuid) (time : Instant) : File :=
  note { id, owner, filename, path, metadata, createdAt := time, updatedAt := time }
    correlation time (.uploaded id owner path.text metadata.mimeType metadata.size)

def markDeleted (file : File) (correlation : Uuid) (time : Instant) : File :=
  file.note correlation time (.deleted file.id file.owner file.path.text)

def detached (file : File) : File := { file with uncommitted := [] }

def ownedBy (file : File) (entityType entityId : String) : Bool :=
  file.owner.entityType == entityType && file.owner.entityId == entityId

def view (file : File) (url : String) : Json :=
  .obj [("file_id", file.id.json), ("entity_type", .str file.owner.entityType),
    ("entity_id", .str file.owner.entityId), ("field", .str file.owner.field),
    ("filename", .str file.filename), ("path", .str file.path.text), ("url", .str url),
    ("mime_type", .str file.metadata.mimeType), ("size", .nat file.metadata.size),
    ("width", .ofOption .nat file.metadata.width),
    ("height", .ofOption .nat file.metadata.height)]

end File

end Depot.Files
