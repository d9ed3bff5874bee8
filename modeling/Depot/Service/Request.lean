import Depot.Accounts.Change
import Depot.Accounts.Registration
import Depot.Files.Upload
import Depot.Json.Reader
import Depot.Service.Reply
import Depot.Service.Target

/-!
Reading requests: the JSON bodies of requests on accounts, and the fields of queries.
-/

namespace Depot.Service

structure Request where
  method : String
  target : String
  contentType : Option String := none
  body : ByteArray := ByteArray.empty

/-! ## Bodies -/

def smallLetters (s : String) : String := String.ofList (s.toList.map Char.toLower)

/-- Whether a media type says that a body is JSON: the type itself, or one built on it. Parameters
do not matter. -/
def isJsonType (mediaType : String) : Bool :=
  let (essence, _) := Text.breakAt ';' mediaType.toList
  match Text.breakAt '/' (smallLetters (Text.trim (String.ofList essence))).toList with
  | (kind, some subtype) =>
    String.ofList kind == "application" &&
      (String.ofList subtype == "json" || (String.ofList subtype).endsWith "+json")
  | _ => false

def readBytes (read : Json.Reader α) (bytes : ByteArray) : Except Json.ReadFault α :=
  match Json.readAll read (Text.leadingText bytes) with
  | .error fault => .error fault
  | .ok a => if (Text.ofUtf8? bytes).isSome then .ok a else .error .text

/-- Reads a JSON body: its type, its size and its form are looked at in this order. -/
def readBody (maxBytes : Nat) (read : Json.Reader α) (request : Request) : Except Refusal α :=
  if !(request.contentType.any isJsonType) then .error (.unreadable .mediaType)
  else if maxBytes < request.body.size then .error (.unreadable .size)
  else
    match readBytes read request.body with
    | .ok a => .ok a
    | .error .text => .error (.unreadable .json)
    | .error .shape => .error (.unreadable .form)

structure Draft where
  first : Option String := none
  email : Option String := none
  password : Option (Option String) := none
  admin : Option Bool := none

def registrationReader : Json.Reader Accounts.Registration :=
  Json.RecordShape.reader {
    names := ["username", "email", "password", "admin"]
    start := ({} : Draft)
    given := fun draft position =>
      [draft.first.isSome, draft.email.isSome, draft.password.isSome,
        draft.admin.isSome].getD position false
    read := fun position draft cs =>
      match position with
      | 0 => (Json.stringReader cs).map fun (s, cs) => ({ draft with first := some s }, cs)
      | 1 => (Json.stringReader cs).map fun (s, cs) => ({ draft with email := some s }, cs)
      | 2 => (Json.nullableReader Json.stringReader cs).map fun (s, cs) =>
        ({ draft with password := some s }, cs)
      | _ => (Json.boolReader cs).map fun (b, cs) => ({ draft with admin := some b }, cs)
    finish := fun draft => do
      return {
        username := ← draft.first
        email := ← draft.email
        password := draft.password.join
        admin := draft.admin.getD false }
    needed := 3 }

def provisionReader : Json.Reader Accounts.Provision :=
  Json.RecordShape.reader {
    names := ["display_name", "email"]
    start := ({} : Draft)
    given := fun draft position =>
      [draft.first.isSome, draft.email.isSome].getD position false
    read := fun position draft cs =>
      match position with
      | 0 => (Json.stringReader cs).map fun (s, cs) => ({ draft with first := some s }, cs)
      | _ => (Json.stringReader cs).map fun (s, cs) => ({ draft with email := some s }, cs)
    finish := fun draft => do
      return { displayName := ← draft.first, email := ← draft.email }
    needed := 2 }

structure ChangeDraft where
  username : Option (Option String) := none
  email : Option (Option String) := none
  password : Option (Option String) := none
  roles : Option (Option (List Accounts.Role)) := none

def changeReader (user : Uuid) : Json.Reader Accounts.Change :=
  let textReader := Json.nullableReader Json.stringReader
  Json.RecordShape.reader {
    names := ["username", "email", "password", "roles"]
    start := ({} : ChangeDraft)
    given := fun draft position =>
      [draft.username.isSome, draft.email.isSome, draft.password.isSome,
        draft.roles.isSome].getD position false
    read := fun position draft cs =>
      match position with
      | 0 => (textReader cs).map fun (s, cs) => ({ draft with username := some s }, cs)
      | 1 => (textReader cs).map fun (s, cs) => ({ draft with email := some s }, cs)
      | 2 => (textReader cs).map fun (s, cs) => ({ draft with password := some s }, cs)
      | _ =>
        (Json.nullableReader (Json.listReader (Json.tagReader Accounts.Role.ofText?)) cs).map
          fun (roles, cs) => ({ draft with roles := some roles }, cs)
    finish := fun draft => some {
      user
      username := draft.username.join
      email := draft.email.join
      password := draft.password.join
      roles := draft.roles.join }
    needed := 4 }

/-! ## Queries -/

structure PageQuery where
  page : Nat := 1
  limit : Nat := 20

def PageQuery.ofQuery? (query : Query) : Option PageQuery := do
  let page ← query.read? "page" (wordUpTo? Text.maxWord32)
  let limit ← query.read? "limit" (wordUpTo? Text.maxWord32)
  return ⟨page.getD 1, limit.getD 20⟩

structure UploadQuery where
  filename : String
  replace : Bool
  constraints : Option Files.Constraints
  transform : Option Pictures.Transform

namespace UploadQuery

/-- The limits that a query asks for; none at all count as no limits. -/
def constraintsOf? (query : Query) : Option (Option Files.Constraints) := do
  let maxSizeBytes ← query.read? "max_size_bytes" word64?
  let minWidth ← query.read? "min_width" word32?
  let maxWidth ← query.read? "max_width" word32?
  let minHeight ← query.read? "min_height" word32?
  let maxHeight ← query.read? "max_height" word32?
  let limits : Files.Constraints :=
    { maxSizeBytes, minWidth, maxWidth, minHeight, maxHeight }
  return if limits = {} then none else some limits

/-- The change that a query asks for; without any side there is none. -/
def transformOf? (query : Query) : Option (Option Pictures.Transform) := do
  let width ← query.read? "width" word32?
  let height ← query.read? "height" word32?
  let fit ← query.read? "fit" Pictures.Fit.ofName?
  let format ← query.read? "format" Pictures.Format.ofName?
  let quality ← query.read? "quality" word8?
  return if width.isNone && height.isNone then none
    else some {
      width, height
      fit := fit.getD .cover
      quality := quality.getD Pictures.usualQuality
      format := format.getD .jpeg }

def ofQuery? (query : Query) : Option UploadQuery := do
  let filename ← ← query.text? "filename"
  let replace ← query.read? "replace" Text.bool?
  let constraints ← constraintsOf? query
  let transform ← transformOf? query
  return ⟨filename, replace.getD true, constraints, transform⟩

end UploadQuery

/-- The minutes that a signed address is asked for; nothing if the lasting one is. -/
def linkMinutes? (query : Query) (usual : Nat) : Option (Option Nat) := do
  let signed ← query.read? "signed" Text.bool?
  let minutes ← query.read? "expires_in_minutes" (wordUpTo? Text.maxWord32)
  return if signed.getD false then some (minutes.getD usual) else none

structure Signature where
  expires : Option Int
  signature : Option String

def Signature.ofQuery? (query : Query) : Option Signature := do
  return ⟨← query.read? "expires" int64?, ← query.text? "signature"⟩

end Depot.Service
