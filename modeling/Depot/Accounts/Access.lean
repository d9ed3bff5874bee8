import Depot.State

/-!
Calls to the stored users and to the hasher. Each is noted before it is made.
-/

namespace Depot.Accounts

variable (env : Env)

def stored : Act Failure Users := return (← getThe State).users

def store (result : Except Failure Users) : Act Failure Unit := do
  let users ← Act.ofExcept result
  modifyThe State fun state => { state with users }

def userById (id : Uuid) : Act Failure (Option User) := do
  env.callRecords (.findUserById id)
  return (← stored).findById? id

def userByUsername (name : String) : Act Failure (Option User) := do
  env.callRecords (.findUserByUsername name)
  return (← stored).findByUsername? name

def userByEmail (email : String) : Act Failure (Option User) := do
  env.callRecords (.findUserByEmail email)
  return (← stored).findByEmail? email

def usersOnPage (page limit : Nat) : Act Failure (List User) := do
  env.callRecords (.listUsers page limit)
  return (← stored).page page limit

def createRecord (user : User) : Act Failure Unit := do
  env.callRecords (.createUser user)
  store ((← stored).insert user)

def updateRecord (user : User) : Act Failure Unit := do
  env.callRecords (.updateUser user)
  store ((← stored).update user)

def deleteRecord (id : Uuid) : Act Failure Bool := do
  env.callRecords (.deleteUser id)
  let users ← stored
  store (.ok (users.erase id))
  return (users.findById? id).isSome

def hashed (password : String) : Act Failure String := do
  let calls ← Act.note env.outside.recordFault (.hashPassword password)
  return env.outside.hash calls password

end Depot.Accounts
