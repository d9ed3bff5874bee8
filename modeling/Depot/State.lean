import Depot.Accounts.Users
import Depot.Blobs.Store
import Depot.Dispatcher
import Depot.Files.Catalogue
import Depot.Files.Constraints
import Depot.Handler
import Depot.Pictures.Transform

/-!
The state that requests act on, and how they act: every call to a store or to a service outside is
noted with its arguments before it is made. Whether a call fails, and what a service answers, may
depend on all calls made so far; a failing call changes nothing but the notes.
-/

namespace Depot

structure UploadTarget where
  path : String
  mimeType : String
  remarks : List (String × String)
deriving DecidableEq, Repr

inductive Call
  | listUsers (page limit : Nat)
  | findUserById (id : Uuid)
  | findUserByUsername (name : String)
  | findUserByEmail (email : String)
  | createUser (user : Accounts.User)
  | updateUser (user : Accounts.User)
  | deleteUser (id : Uuid)
  | hashPassword (password : String)
  | findFileById (id : Uuid)
  | findFileByPath (path : String)
  | findFilesOfEntity (entityType entityId : String)
  | findCurrentFile (owner : Files.Owner)
  | createFile (file : Files.File)
  | updateFile (file : Files.File)
  | deleteFile (id : Uuid)
  | deleteFilesOfEntity (entityType entityId : String)
  | uploadBlob (bytes : ByteArray) (target : UploadTarget)
  | deleteBlob (path : String)
  | lookForBlob (path : String)
  | signBlob (path : String) (minutes : Nat)
  | copyBlob (source target : String)
  | detectType (bytes : ByteArray)
  | measurePicture (bytes : ByteArray)
  | transformPicture (bytes : ByteArray) (request : Pictures.Transform)
  | handledAccount (handler : String) (event : Accounts.Event)
  | handledFile (handler : String) (event : Files.Event)

/-- The services outside. Each is given the calls made so far, the one in question first. -/
structure Outside where
  hash : List Call → String → String
  mimeType : List Call → ByteArray → Option String
  sides : List Call → ByteArray → Option Pictures.Sides
  transform :
    List Call → ByteArray → Pictures.Transform → Except BackendFailure Pictures.Rendition
  recordFault : List Call → Option Failure := fun _ => none
  backendFault : List Call → Option BackendFailure := fun _ => none

structure Env where
  now : Instant
  book : Blobs.AddressBook
  outside : Outside

structure State where
  users : Accounts.Users := {}
  files : Files.Catalogue := {}
  blobs : Blobs.Store := .memory {}
  accountEvents : Dispatcher Accounts.Topic AccountHandler Accounts.Event := {}
  fileEvents : Dispatcher Files.Topic FileHandler Files.Event := {}
  calls : List Call := []

/-- An action on the state that may fail; what it did before it failed stays done. -/
abbrev Act (ε α : Type) := ExceptT ε (StateM State) α

namespace Act

def runOn (act : Act ε α) (state : State) : Except ε α × State := StateT.run act.run state

def mapFailure (f : ε → ε') (act : Act ε α) : Act ε' α := ExceptT.adapt f act

def outcome (act : Act ε α) : Act ε' (Except ε α) := ExceptT.lift act.run

def ofExcept (result : Except ε α) : Act ε α := ExceptT.mk (pure result)

/-- Notes a call, which then fails if `fault` has a failure for it. Gives all calls so far. -/
def note (fault : List Call → Option ε) (call : Call) : Act ε (List Call) := do
  let state ← getThe State
  let calls := call :: state.calls
  set { state with calls }
  match fault calls with
  | some failure => throw failure
  | none => return calls

end Act

def Env.callRecords (env : Env) (call : Call) : Act Failure Unit := do
  let _ ← Act.note env.outside.recordFault call

end Depot
