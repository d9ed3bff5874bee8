import Depot.Json.Access
import Depot.State

/-!
How calls are named, and which of them a trace shows: those that change something, that ask for a
page of the accounts, or that tell a handler of an event.
-/

namespace Depot.Call

/-- The service that a call goes to, the method called, and the path, name or email it is about, if
there is one. Telling a handler is no call to a service. -/
def target? : Call → Option (String × String × Option String)
  | listUsers .. => some ("users", "list", none)
  | findUserById _ => some ("users", "find_by_id", none)
  | findUserByUsername name => some ("users", "find_by_username", some name)
  | findUserByEmail email => some ("users", "find_by_email", some email)
  | createUser user => some ("users", "create", some user.username.text)
  | updateUser user => some ("users", "update", some user.username.text)
  | deleteUser _ => some ("users", "delete", none)
  | hashPassword _ => some ("hasher", "hash", none)
  | findFileById _ => some ("files", "find_by_id", none)
  | findFileByPath path => some ("files", "find_by_path", some path)
  | findFilesOfEntity .. => some ("files", "find_by_entity", none)
  | findCurrentFile _ => some ("files", "find_by_entity_and_field", none)
  | createFile file => some ("files", "create", some file.path.text)
  | updateFile file => some ("files", "update", some file.path.text)
  | deleteFile _ => some ("files", "delete", none)
  | deleteFilesOfEntity .. => some ("files", "delete_by_entity", none)
  | uploadBlob _ target => some ("storage", "upload", some target.path)
  | deleteBlob path => some ("storage", "delete", some path)
  | lookForBlob path => some ("storage", "exists", some path)
  | signBlob path _ => some ("storage", "signed_url", some path)
  | copyBlob source _ => some ("storage", "copy", some source)
  | detectType _ => some ("validator", "detect_mime_type", none)
  | measurePicture _ => some ("validator", "dimensions", none)
  | transformPicture .. => some ("images", "resize", none)
  | handledAccount .. | handledFile .. => none

def entry? : Call → Option Json
  | listUsers page limit => some (.arr [.str "list_users", .nat page, .nat limit])
  | createUser user => some (.texts ["create_user", user.username.text])
  | updateUser user => some (.texts ["update_user", user.id.text])
  | deleteUser id => some (.texts ["delete_user", id.text])
  | hashPassword _ => some (.texts ["hash"])
  | createFile file => some (.texts ["create_record", file.path.text])
  | updateFile file => some (.texts ["update_record", file.path.text])
  | deleteFile id => some (.texts ["delete_record", id.text])
  | deleteFilesOfEntity entityType entityId =>
    some (.texts ["delete_records_of", entityType, entityId])
  | uploadBlob bytes target => some (.arr [.str "upload_blob", .str target.path,
      .str target.mimeType, .nat bytes.size,
      .obj (target.remarks.map fun (name, value) => (name, .str value))])
  | deleteBlob path => some (.texts ["delete_blob", path])
  | copyBlob source target => some (.texts ["copy_blob", source, target])
  | transformPicture _ request => some (.arr [.str "resize_image", request.json])
  | handledAccount handler event =>
    some (.texts ["handled", handler, event.payload.topic.typeName, event.record.text])
  | handledFile handler event =>
    some (.texts ["handled", handler, event.payload.topic.typeName, event.record.text])
  | _ => none

def delivery? : Call → Option Json
  | handledAccount handler event =>
    some (.texts [handler, event.payload.topic.typeName, event.record.text])
  | handledFile handler event =>
    some (.texts [handler, event.payload.topic.typeName, event.record.text])
  | _ => none

end Depot.Call

namespace Depot

structure Outage where
  service : String
  method : String
  argument : Option String
  records : Failure
  backend : BackendFailure
deriving DecidableEq, Repr

def Outage.covers (outage : Outage) (call : Call) : Bool :=
  match call.target? with
  | none => false
  | some (service, method, argument) =>
    outage.service == service && outage.method == method &&
      (outage.argument.isNone || outage.argument == argument)

def firstOutage (outages : List Outage) (calls : List Call) : Option Outage :=
  calls.head?.bind fun call => outages.find? (·.covers call)

def Outside.under (outside : Outside) (outages : List Outage) : Outside :=
  { outside with
    recordFault := fun calls => (firstOutage outages calls).map (·.records)
    backendFault := fun calls => (firstOutage outages calls).map (·.backend) }

end Depot
