import Depot.Event
import Depot.Json.Value

/-!
What happens to accounts: they are created and deleted. The payload of an event has a JSON form, an
object whose one member is named for the kind of event.
-/

namespace Depot.Accounts

inductive Topic
  | userCreated
  | userDeleted
deriving DecidableEq, Repr

namespace Topic

def name : Topic → String
  | userCreated => "UserCreated"
  | userDeleted => "UserDeleted"

def ofName? : String → Option Topic
  | "UserCreated" => some userCreated
  | "UserDeleted" => some userDeleted
  | _ => none

def typeName : Topic → String
  | userCreated => "identity.user_created"
  | userDeleted => "identity.user_deleted"

end Topic

inductive Payload
  | userCreated (user : Uuid) (username email : String)
  | userDeleted (user : Uuid)
deriving DecidableEq, Repr

namespace Payload

def topic : Payload → Topic
  | userCreated .. => .userCreated
  | userDeleted _ => .userDeleted

def json (payload : Payload) : Json :=
  .obj [(payload.topic.name, match payload with
    | userCreated user username email =>
      .obj [("user_id", user.json), ("username", .str username), ("email", .str email)]
    | userDeleted user => .obj [("user_id", user.json)])]

def createdOfJson? (json : Json) : Option Payload :=
  match json.record? ["user_id", "username", "email"] with
  | some [some user, some username, some email] => do
    return userCreated (← Uuid.ofJson? user) (← username.string?) (← email.string?)
  | _ => none

def deletedOfJson? (json : Json) : Option Payload :=
  match json.record? ["user_id"] with
  | some [some user] => (Uuid.ofJson? user).map userDeleted
  | _ => none

def ofJson? (json : Json) : Option Payload := do
  let (name, content) ← json.tagged?
  match ← Topic.ofName? name with
  | .userCreated => createdOfJson? content
  | .userDeleted => deletedOfJson? content

end Payload

structure Event where
  stamp : Stamp
  payload : Payload
deriving DecidableEq, Repr

namespace Event

def topic (event : Event) : Topic := event.payload.topic

def record (event : Event) : Uuid := event.stamp.record

def of (record correlation : Uuid) (time : Instant) (payload : Payload) : Event :=
  ⟨⟨payload.topic.typeName, record, correlation, time⟩, payload⟩

end Event

end Depot.Accounts
