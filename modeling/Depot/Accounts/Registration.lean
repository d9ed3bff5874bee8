import Depot.Accounts.Access
import Depot.Accounts.UniqueName

/-!
How accounts come to be: by registration, which fails where the email or the name is taken, and by
provision, which finds the account of an email or makes one without a password. Both give the user
together with the events that whoever asked may deliver.
-/

namespace Depot.Accounts

structure Registration where
  username : String
  email : String
  password : Option String := none
  admin : Bool := false
  correlation : Uuid := .nil
deriving DecidableEq, Repr

structure Provision where
  displayName : String
  email : String
  correlation : Uuid := .nil
deriving DecidableEq, Repr

/-- Whether a text may be an email: something is left of it, with an at sign. -/
def isEmail (email : String) : Bool := (Text.trim email).toList.contains '@'

def checkEmail (email : String) : Except Failure Unit :=
  if isEmail email then .ok () else .error (.invalid "email must be a valid address")

def nameOf (s : String) : Except Failure Username :=
  match Username.parse s with
  | .ok name => .ok name
  | .error fault => .error fault.failure

/-- The hash of a password that may be missing, but not empty. -/
def hashGiven (env : Env) : Option String → Act Failure (Option String)
  | none => pure none
  | some password =>
    if password.isEmpty then throw (.invalid "password must not be empty")
    else some <$> hashed env password

def firstRoles (admin : Bool) : List Role := if admin then [.admin, .user] else [.user]

def record (env : Env) (user : User) : Act Failure (User × List Event) := do
  createRecord env user
  return (user.detached, user.uncommitted)

def register (env : Env) (request : Registration) (id : Uuid) :
    Act Failure (User × List Event) := do
  Act.ofExcept (checkEmail request.email)
  let email := Text.trim request.email
  let username ← Act.ofExcept (nameOf request.username)
  let sameEmail ← userByEmail env email
  let sameName ← userByUsername env username.text
  if sameEmail.isSome || sameName.isSome then throw (.alreadyExists "user already exists")
  let passwordHash ← hashGiven env request.password
  record env (User.register id username email passwordHash (firstRoles request.admin)
    request.correlation env.now)

/-- The name of a provisioned account: the one asked for, with a drawn ending if it is taken. -/
def freeName (env : Env) (displayName : String) (draws : List Nat) : Act Failure Username := do
  let username ← Act.ofExcept (nameOf displayName)
  match ← userByUsername env username.text with
  | none => return username
  | some _ =>
    match uniqueName username.text draws with
    | .ok username => return username
    | .error fault => throw fault.failure

/-- Finds the account of an email, or registers one. -/
def provision (env : Env) (request : Provision) (id : Uuid) (draws : List Nat) :
    Act Failure (User × List Event) := do
  Act.ofExcept (checkEmail request.email)
  let email := Text.trim request.email
  match ← userByEmail env email with
  | some user => return (user, [])
  | none =>
    let username ← freeName env request.displayName draws
    record env (User.register id username email none [.user] request.correlation env.now)

end Depot.Accounts
