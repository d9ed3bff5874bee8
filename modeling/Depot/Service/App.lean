import Depot.Accounts.Deletion
import Depot.Accounts.Listing
import Depot.Service.Request
import Depot.Service.Resource

/-!
The service: every request names a place and a method, is read, acts on the state and is answered.
Parts of the path are read first, then the query, then the body; the first of them that cannot be
read decides the reply.
-/

namespace Depot.Service

structure App where
  settings : Files.Settings := {}
  maxBodyBytes : Nat
  /-- How the framework words what it cannot read of a request. -/
  wording : Request → Unreadable → String

structure Drawn where
  id : Uuid
  correlation : Uuid
  ending : List Nat

variable (env : Env) (app : App) (drawn : Drawn)

def onAccounts (act : Act Failure α) : Act Refusal α := act.mapFailure .accounts

def onFiles (act : Act Files.FileFailure α) : Act Refusal α := act.mapFailure .files

def need (what : Unreadable) : Option α → Act Refusal α
  | some a => pure a
  | none => throw (.unreadable what)

def part (written : String) : Act Refusal String :=
  need .pathPart (decodePart? written)

def uuidPart (written : String) : Act Refusal Uuid := do
  need .identifier (Uuid.parse? (← part written))

def ownerParts (entityType entityId field : String) : Act Refusal Files.Owner :=
  return ⟨← part entityType, ← part entityId, ← part field⟩

def queryPart (query : Query) (read : Query → Option α) : Act Refusal α :=
  need .query (read query)

def health : Json := .obj [("status", .str "ok"), ("version", .str "0.1.0")]

/-! ## Accounts -/

def listUsers (query : Query) : Act Refusal Reply := do
  let page ← queryPart query PageQuery.ofQuery?
  let users ← onAccounts (Accounts.list env page.page page.limit)
  return .json 200 (.arr (users.map Accounts.User.view))

def announceUser (user : Accounts.User) (events : List Accounts.Event) : Act Refusal Unit := do
  Accounts.enqueue events
  onAccounts (Accounts.dispatch env user.id)

def createUser (request : Request) : Act Refusal Reply := do
  let body ← Act.ofExcept (readBody app.maxBodyBytes registrationReader request)
  let (user, events) ← onAccounts
    (Accounts.register env { body with correlation := drawn.correlation } drawn.id)
  announceUser env user events
  return .json 201 user.view

def provisionUser (request : Request) : Act Refusal Reply := do
  let body ← Act.ofExcept (readBody app.maxBodyBytes provisionReader request)
  let (user, events) ← onAccounts
    (Accounts.provision env { body with correlation := drawn.correlation } drawn.id drawn.ending)
  announceUser env user events
  return .json (if events.isEmpty then 200 else 201) user.view

def getUser (id : String) : Act Refusal Reply := do
  let id ← uuidPart id
  let user ← onAccounts (Accounts.lookUp env id)
  return .json 200 user.view

def changeUser (id : String) (request : Request) : Act Refusal Reply := do
  let id ← uuidPart id
  let body ← Act.ofExcept (readBody app.maxBodyBytes (changeReader id) request)
  let user ← onAccounts (Accounts.change env body)
  return .json 200 user.view

def deleteUser (id : String) : Act Refusal Reply := do
  let id ← uuidPart id
  let _ ← onAccounts (Accounts.delete env id drawn.correlation)
  return .bare 204

/-! ## Files -/

def announceFile (file : Files.File) (events : List Files.Event) : Act Refusal Unit := do
  Files.enqueue events
  onAccounts (Files.dispatch env file.id)

def viewFile (file : Files.File) : Json := file.view (env.book.publicUrl file.path.text)

def uploadFile (owner : Files.Owner) (query : Query) (bytes : ByteArray) : Act Refusal Reply := do
  let fields ← queryPart query UploadQuery.ofQuery?
  if app.maxBodyBytes < bytes.size then throw (.unreadable .size)
  let request : Files.UploadRequest := {
    owner, bytes
    filename := fields.filename
    environment := app.settings.environment
    constraints := fields.constraints
    transform := fields.transform
    replaceExisting := fields.replace
    correlation := drawn.correlation }
  let (file, events) ← onFiles
    (Files.upload env app.settings.replaceStrategy request drawn.id)
  announceFile env file events
  return .json 201 (viewFile env file)

def deleteOwnerFile (owner : Files.Owner) : Act Refusal Reply := do
  let _ ← onFiles (Files.removeOfOwner env owner drawn.correlation)
  return .bare 204

def linkFile (locator : Files.Locator) (query : Query) : Act Refusal Reply := do
  let minutes ← queryPart query (linkMinutes? · Files.usualMinutes)
  let link ← onFiles (Files.link env locator minutes)
  return .json 200 link.json

def getFile (id : String) : Act Refusal Reply := do
  let id ← uuidPart id
  let file ← onFiles (Files.locate env (.byId id))
  return .json 200 (viewFile env file)

def deleteFile (id : String) : Act Refusal Reply := do
  let id ← uuidPart id
  let _ ← onFiles (Files.remove env id)
  return .bare 204

/-! ## Contents -/

/-- Refuses a signature that is not in order; without any the content is public. -/
def checkSignature (path : String) (given : Signature) : Act Refusal Unit :=
  match given.expires, given.signature with
  | none, none => pure ()
  | some expires, some signature =>
    if env.book.verifies env.now path expires signature then pure ()
    else throw (.forbidden "invalid or expired signature")
  | _, _ => throw (.forbidden "invalid or expired signature")

/-- The bytes at a path of a disk. A path that is not accepted has none. -/
def blobBytes (tree : Blobs.Disk) (path : String) : Except Files.FileFailure ByteArray :=
  match tree.read path with
  | .ok (some bytes) => .ok bytes
  | .ok none => .error (.notFound path)
  | .error (.refused _) => .error (.notFound path)
  | .error failure => .error (.ofBackend failure)

/-- Whether a text can be a media type of a reply: it holds no control characters but the tab. -/
def isHeaderText (s : String) : Bool :=
  s.toList.all fun c => c = '\t' || (32 ≤ c.toNat && c.toNat ≠ 127)

def fallbackMediaType : String := "application/octet-stream"

def serveBlob (path : String) (query : Query) : Act Refusal Reply := do
  let path ← part path
  let signature ← queryPart query Signature.ofQuery?
  match (← getThe State).blobs with
  | .memory _ => throw (.files (.notFound path))
  | .disk tree =>
    checkSignature env path signature
    let bytes ← onFiles (Act.ofExcept (blobBytes tree path))
    let record ← onAccounts (Files.fileByPath env path)
    let mediaType := (record.map (·.metadata.mimeType)).getD fallbackMediaType
    if isHeaderText mediaType then return ⟨200, some mediaType, .bytes bytes⟩
    else return .plain 500 "failed to parse header value"

/-! ## Requests -/

/-- What a method does at a place; `HEAD` does what `GET` does. -/
def perform (resource : Resource) (query : Query) (request : Request) : Act Refusal Reply :=
  match resource, (if request.method = "HEAD" then "GET" else request.method) with
  | .health, "GET" => return .json 200 health
  | .users, "GET" => listUsers env query
  | .users, "POST" => createUser env app drawn request
  | .provision, "POST" => provisionUser env app drawn request
  | .user id, "GET" => getUser env id
  | .user id, "PATCH" => changeUser env app id request
  | .user id, "DELETE" => deleteUser env drawn id
  | .slot entityType entityId field, "POST" => do
    uploadFile env app drawn (← ownerParts entityType entityId field) query request.body
  | .slot entityType entityId field, "DELETE" => do
    deleteOwnerFile env drawn (← ownerParts entityType entityId field)
  | .slotLink entityType entityId field, "GET" => do
    linkFile env (.byOwner (← ownerParts entityType entityId field)) query
  | .file id, "GET" => getFile env id
  | .file id, "DELETE" => deleteFile env id
  | .fileLink id, "GET" => do linkFile env (.byId (← uuidPart id)) query
  | .blob path, "GET" => serveBlob env path query
  | _, _ => throw (.unknown 405)

def act (request : Request) : Act Refusal Reply := do
  let target := Target.ofText request.target
  match Resource.ofPath target.path with
  | none => throw (.unknown 404)
  | some resource => perform env app drawn resource target.query request

def answer (request : Request) (state : State) : Reply × State :=
  let (result, state) := (act env app drawn request).runOn state
  let reply := match result with
    | .ok reply => reply
    | .error refusal => refusal.reply (app.wording request)
  (if request.method = "HEAD" then reply.headOnly else reply, state)

end Depot.Service
