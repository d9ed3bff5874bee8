import Depot.Accounts.Registration
import Depot.Json.Access

/-!
The JSON form of whole user records, password hashes included, and of events with their stamps.
-/

namespace Depot

def Instant.ofJson? : Json → Option Instant
  | .int seconds => some ⟨seconds, 0⟩
  | .arr [.int seconds, .int nanos] => some ⟨seconds, nanos.toNat⟩
  | _ => none

def Instant.json (t : Instant) : Json := .str t.text

def Json.uuidAt (json : Json) (name : String) : Uuid :=
  (Uuid.ofJson? (json.field name)).getD .nil

def Json.instantAt (json : Json) (name : String) (usual : Instant) : Instant :=
  (Instant.ofJson? (json.field name)).getD usual

def Stamp.members (stamp : Stamp) (typeName topic : String) : List (String × Json) :=
  [("event_type", .str typeName), ("meta_type", .str stamp.typeName), ("topic", .str topic),
    ("aggregate_id", stamp.record.json), ("correlation_id", stamp.correlation.json),
    ("occurred_at", stamp.time.json)]

namespace Accounts

def Event.json (event : Event) : Json :=
  .obj (event.stamp.members event.topic.typeName event.topic.name ++
    [("kind", event.payload.json)])

def User.json (user : User) : Json :=
  .obj [("id", user.id.json), ("username", .str user.username.text), ("email", .str user.email),
    ("password_hash", .ofOption .str user.passwordHash),
    ("roles", .arr (user.roles.map Role.json)), ("created_at", user.createdAt.json),
    ("updated_at", user.updatedAt.json)]

def User.ofJson (json : Json) (usual : Instant) : Except Failure User := do
  let roles ← (json.textsAt "roles").mapM Role.parse
  let username ← nameOf (json.textAt "username")
  return {
    id := json.uuidAt "id"
    username
    email := json.textAt "email"
    passwordHash := json.textAt? "password_hash"
    roles
    createdAt := json.instantAt "created_at" usual
    updatedAt := json.instantAt "updated_at" usual }

end Accounts

end Depot
