import Depot.Accounts.Access
import Depot.Files.Removal

/-!
Deleting an account. Its deletion is told to every handler before the account is removed, so that
what depends on it is removed first, and so that the account stays if a handler fails.
-/

namespace Depot.Accounts

variable (env : Env)

def handle (handler : AccountHandler) (event : Event) : Act Failure Unit :=
  match handler with
  | .recorder name => env.callRecords (.handledAccount name event)
  | .refuser failure => throw failure
  | .fileRemover policy =>
    match event.payload with
    | .userCreated .. => pure ()
    | .userDeleted user => do
      let _ ← (Files.removeOfUser env policy user).mapFailure Files.FileFailure.failure

def dispatch (id : Uuid) : Act Failure Unit := do
  let state ← getThe State
  let waiting := state.accountEvents.waiting id
  set { state with accountEvents := state.accountEvents.release id }
  state.accountEvents.deliver Event.topic (handle env) waiting

def enqueue (events : List Event) : Act ε Unit :=
  modifyThe State fun state =>
    { state with accountEvents := state.accountEvents.enqueue Event.record events }

/-- Lets the untaken events of a user wait and gives the user without them. -/
def markPending (user : User) : Act ε User := do
  modifyThe State fun state =>
    { state with accountEvents := state.accountEvents.push user.id user.uncommitted }
  return user.detached

def delete (id correlation : Uuid) : Act Failure User := do
  match ← userById env id with
  | none => throw (.notFound id)
  | some user =>
    let user ← markPending (user.markDeleted correlation env.now)
    dispatch env user.id
    let _ ← deleteRecord env user.id
    return user

end Depot.Accounts
