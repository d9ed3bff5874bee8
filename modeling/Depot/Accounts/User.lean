import Depot.Accounts.Event
import Depot.Accounts.Role
import Depot.Accounts.Username

/-!
User accounts. A user keeps the events of its own life until they are taken away to be delivered;
every change of a field brings the time of the last change up to date.
-/

namespace Depot.Accounts

structure User where
  id : Uuid
  username : Username
  email : String
  passwordHash : Option String
  roles : List Role
  createdAt : Instant
  updatedAt : Instant
  uncommitted : List Event := []
deriving DecidableEq, Repr

namespace User

def note (user : User) (correlation : Uuid) (time : Instant) (payload : Payload) : User :=
  { user with uncommitted := user.uncommitted ++ [Event.of user.id correlation time payload] }

def register (id : Uuid) (username : Username) (email : String) (passwordHash : Option String)
    (roles : List Role) (correlation : Uuid) (time : Instant) : User :=
  note { id, username, email, passwordHash, roles, createdAt := time, updatedAt := time }
    correlation time (.userCreated id username.text email)

def markDeleted (user : User) (correlation : Uuid) (time : Instant) : User :=
  user.note correlation time (.userDeleted user.id)

def rename (user : User) (username : Username) (time : Instant) : User :=
  { user with username, updatedAt := time }

def changeEmail (user : User) (email : String) (time : Instant) : User :=
  { user with email, updatedAt := time }

def changePasswordHash (user : User) (hash : String) (time : Instant) : User :=
  { user with passwordHash := some hash, updatedAt := time }

def assignRoles (user : User) (roles : List Role) (time : Instant) : User :=
  { user with roles, updatedAt := time }

def detached (user : User) : User := { user with uncommitted := [] }

def view (user : User) : Json :=
  .obj [("user_id", .str user.id.text), ("username", .str user.username.text),
    ("email", .str user.email), ("roles", .arr (user.roles.map Role.json)),
    ("created_at", .str user.createdAt.text), ("updated_at", .str user.updatedAt.text)]

end User

end Depot.Accounts
