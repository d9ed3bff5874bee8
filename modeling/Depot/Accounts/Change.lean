import Depot.Accounts.Registration

/-!
Changing an account. The fields given are checked and applied to a copy one after the other; only
the finished copy is stored, so that a fault leaves the account as it was.
-/

namespace Depot.Accounts

/-- A request to change an account; what is missing stays. -/
structure Change where
  user : Uuid
  username : Option String := none
  email : Option String := none
  password : Option String := none
  roles : Option (List Role) := none
deriving DecidableEq, Repr

def refuseOther (id : Uuid) (what : String) : Option User → Act Failure Unit
  | some other => if other.id ≠ id then throw (.alreadyExists what) else pure ()
  | none => pure ()

def applyUsername (env : Env) (user : User) : Option String → Act Failure User
  | none => pure user
  | some given => do
    let username ← Act.ofExcept (nameOf given)
    refuseOther user.id "username already taken" (← userByUsername env username.text)
    return user.rename username env.now

def applyEmail (env : Env) (user : User) : Option String → Act Failure User
  | none => pure user
  | some given => do
    Act.ofExcept (checkEmail given)
    let email := Text.trim given
    refuseOther user.id "email already taken" (← userByEmail env email)
    return user.changeEmail email env.now

def applyPassword (env : Env) (user : User) (given : Option String) : Act Failure User := do
  match ← hashGiven env given with
  | none => return user
  | some hash => return user.changePasswordHash hash env.now

def applyRoles (env : Env) (user : User) : Option (List Role) → Act Failure User
  | none => pure user
  | some roles =>
    if roles.isEmpty then throw (.invalid "a user needs at least one role")
    else pure (user.assignRoles roles env.now)

def change (env : Env) (request : Change) : Act Failure User := do
  match ← userById env request.user with
  | none => throw (.notFound request.user)
  | some user =>
    let user ← applyUsername env user request.username
    let user ← applyEmail env user request.email
    let user ← applyPassword env user request.password
    let user ← applyRoles env user request.roles
    updateRecord env user
    return user

end Depot.Accounts
