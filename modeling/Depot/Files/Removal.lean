import Depot.Files.Links
import Depot.Files.Upload

/-!
Removing files. The content goes first and the record second, so that a removal that fails can be
asked for again. The files of a deleted user go together: all contents, then all records.
-/

namespace Depot.Files

variable (env : Env)

def remove (id : Uuid) : Act FileFailure File := do
  let file ← locate env (.byId id)
  removeFile env file
  return file

def handle (handler : FileHandler) (event : Event) : Act Failure Unit :=
  match handler with
  | .recorder name => env.callRecords (.handledFile name event)
  | .refuser failure => throw failure

def dispatch (id : Uuid) : Act Failure Unit := do
  let state ← getThe State
  let waiting := state.fileEvents.waiting id
  set { state with fileEvents := state.fileEvents.release id }
  state.fileEvents.deliver Event.topic (handle env) waiting

def enqueue (events : List Event) : Act ε Unit :=
  modifyThe State fun state =>
    { state with fileEvents := state.fileEvents.enqueue Event.record events }

def markPending (file : File) : Act ε File := do
  modifyThe State fun state =>
    { state with fileEvents := state.fileEvents.push file.id file.uncommitted }
  return file.detached

/-- Removes the file of an owner, after its deletion has been told to every handler. -/
def removeOfOwner (owner : Owner) (correlation : Uuid) : Act FileFailure File := do
  let file ← locate env (.byOwner owner)
  let file ← markPending (file.markDeleted correlation env.now)
  onRecords (dispatch env file.id)
  removeFile env file
  return file

/-- The kind of entity that users' files are recorded under. -/
def userEntity : String := "user"

/-- Removes the contents of files; the first failure ends it, unless it is to go on. -/
def removeContents (policy : CascadePolicy) : List File → Act FileFailure Unit
  | [] => pure ()
  | file :: rest => do
    match ← (deleteBlob env file.path.text).outcome with
    | .ok () => pure ()
    | .error failure =>
      if policy.continueOnItemFailure then pure () else throw (.ofBackend failure)
    removeContents policy rest

def removeOfUser (policy : CascadePolicy) (user : Uuid) : Act FileFailure Nat := do
  let files ← onRecords (filesOfEntity env userEntity user.text)
  removeContents env policy files
  onRecords (deleteRecordsOfEntity env userEntity user.text)

end Depot.Files
