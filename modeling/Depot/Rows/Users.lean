import Depot.Accounts.Registration
import Depot.Rows.Value

/-!
User records as rows: the statements on the table of users, and the record that a row holds.
-/

namespace Depot.Rows

open Accounts

namespace UserRow

def columns : List String :=
  ["id", "username", "email", "password_hash", "roles", "created_at", "updated_at"]

def columnList : String := ", ".intercalate columns

def values (user : User) : List Value :=
  [.uuid user.id, .text user.username.text, .text user.email, .ofOption .text user.passwordHash,
    .texts (user.roles.map Role.text), .timestamp user.createdAt, .timestamp user.updatedAt]

def roleOf (name : String) : Except Failure Role :=
  match Role.parse name with
  | .ok role => .ok role
  | .error failure => .error (corrupt "roles" failure.message)

def usernameOf (text : String) : Except Failure Username :=
  match nameOf text with
  | .ok username => .ok username
  | .error failure => .error (corrupt "username" failure.message)

def user (row : Row) : Except Failure User := do
  let context := "failed to read user row"
  let username ← row.text context "username"
  let roles ← row.texts context "roles"
  let id ← row.uuid context "id"
  let username ← usernameOf username
  let email ← row.text context "email"
  let passwordHash ← row.optionalText context "password_hash"
  let roles ← roles.mapM roleOf
  let createdAt ← row.timestamp context "created_at"
  let updatedAt ← row.timestamp context "updated_at"
  return { id, username, email, passwordHash, roles, createdAt, updatedAt }

end UserRow

def listUsers (page limit : Nat) : Query (List User) where
  statement := .ok ⟨"SELECT " ++ UserRow.columnList ++
    " FROM users ORDER BY created_at DESC, id DESC LIMIT $1 OFFSET $2",
    [.int limit, .int (((page - 1) * limit : Nat) : Int)]⟩
  read := readAll "failed to list users" UserRow.user

def findUser (column : String) (value : Value) : Query (Option User) where
  statement := .ok ⟨"SELECT " ++ UserRow.columnList ++ " FROM users WHERE " ++ column ++ " = $1",
    [value]⟩
  read := readFirst "failed to find user" UserRow.user

def insertUser (user : User) : Query Unit where
  statement := .ok ⟨"INSERT INTO users (" ++ UserRow.columnList ++
    ") VALUES ($1, $2, $3, $4, $5, $6, $7)", UserRow.values user⟩
  read := fun reply => (readAffected "failed to create user" reply).map fun _ => ()

def updateUser (user : User) : Query Unit where
  statement := .ok ⟨"UPDATE users SET username = $2, email = $3, password_hash = $4, " ++
    "roles = $5, updated_at = $6 WHERE id = $1",
    [.uuid user.id, .text user.username.text, .text user.email,
      .ofOption .text user.passwordHash, .texts (user.roles.map Role.text),
      .timestamp user.updatedAt]⟩
  read := readOverwritten "failed to update user" user.id

def deleteUser (id : Uuid) : Query Bool where
  statement := .ok ⟨"DELETE FROM users WHERE id = $1", [.uuid id]⟩
  read := fun reply => (readAffected "failed to delete user" reply).map (0 < ·)

end Depot.Rows
