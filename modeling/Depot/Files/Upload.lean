import Depot.Files.Access

/-!
Taking in a file. The store of contents and the records share no transaction, so the order of the
calls keeps them together: what may refuse the content comes first and writes nothing; then the
place is looked at, which only the file being replaced may hold; then contents and records are
written, in one of two orders.
-/

namespace Depot.Files

structure UploadRequest where
  owner : Owner
  filename : String
  bytes : ByteArray
  environment : String
  constraints : Option Constraints := none
  transform : Option Pictures.Transform := none
  replaceExisting : Bool := true
  correlation : Uuid := .nil

structure Prepared where
  bytes : ByteArray
  mimeType : String
  width : Option Nat := none
  height : Option Nat := none

namespace Prepared

def metadata (prepared : Prepared) : Metadata :=
  ⟨prepared.mimeType, prepared.bytes.size, prepared.width, prepared.height⟩

end Prepared

variable (env : Env)

def enforce (request : UploadRequest) : Act FileFailure Unit := do
  match request.constraints with
  | none => pure ()
  | some limits =>
    let verdict ← onServices <| limits.judge request.bytes.size (detectType env request.bytes)
      (measurePicture env request.bytes)
    match verdict.failure? limits with
    | none => pure ()
    | some failure => throw failure

def recognise (bytes : ByteArray) : Act FileFailure String := do
  match ← onServices (detectType env bytes) with
  | some mimeType => return mimeType
  | none => throw (.typeRefused none [])

/-- Turns the content into what is stored: a picture is changed as asked for, or its sides are read;
anything else stays as it is. -/
def prepare (request : UploadRequest) (mimeType : String) : Act FileFailure Prepared := do
  if isImageType mimeType then
    match request.transform with
    | some change =>
      let made ← onServices (transformPicture env request.bytes change)
      return ⟨made.bytes, made.mimeType, some made.width, some made.height⟩
    | none =>
      let sides ← onServices (measurePicture env request.bytes)
      return ⟨request.bytes, mimeType, sides.map (·.width), sides.map (·.height)⟩
  else return ⟨request.bytes, mimeType, none, none⟩

def fileToReplace (request : UploadRequest) : Act FileFailure (Option File) := do
  let current ← onRecords (currentFile env request.owner)
  return current.filter fun _ => request.replaceExisting

/-- Refuses a place that holds another file than the one to be replaced. -/
def refuseOccupied (path : Path) (existing : Option File) : Act FileFailure Unit := do
  match ← onRecords (fileByPath env path.text) with
  | none => pure ()
  | some occupant =>
    if existing.map (·.id) = some occupant.id then pure ()
    else throw (.records (.alreadyExists ("a file already exists at " ++ path.text)))

def removeFile (file : File) : Act FileFailure Unit := do
  onServices (deleteBlob env file.path.text)
  let _ ← onRecords (deleteRecord env file.id)

def remarks (request : UploadRequest) : List (String × String) :=
  [("entity_type", request.owner.entityType), ("entity_id", request.owner.entityId),
    ("field", request.owner.field), ("original_filename", request.filename)]

def storeContent (request : UploadRequest) (path : Path) (prepared : Prepared) :
    Act FileFailure Unit :=
  (uploadBlob env prepared.bytes ⟨path.text, prepared.mimeType, remarks request⟩).mapFailure
    fun failure => .uploadRefused failure.message

/-- Records the new file and removes the old one. At the same place the old record has to go first,
and the content is the new one already. Elsewhere what cannot be removed is left over. -/
def swap (file old : File) : Act FileFailure Unit := do
  if file.path = old.path then
    let _ ← onRecords (deleteRecord env old.id)
    onRecords (createRecord env file)
  else
    onRecords (createRecord env file)
    let _ ← (deleteRecord env old.id).outcome
    let _ ← (deleteBlob env old.path.text).outcome

/-- Takes in a file under a new identifier. Gives the file and the events that whoever asked may
deliver. -/
def upload (strategy : ReplaceStrategy) (request : UploadRequest) (id : Uuid) :
    Act FileFailure (File × List Event) := do
  enforce env request
  let mimeType ← recognise env request.bytes
  let prepared ← prepare env request mimeType
  let existing ← fileToReplace env request
  let path ← match Path.build request.owner request.filename request.environment env.now with
    | .ok path => pure path
    | .error fault => throw (.records fault.failure)
  refuseOccupied env path existing
  match strategy, existing with
  | .deleteThenUpload, some old => removeFile env old
  | _, _ => pure ()
  storeContent env request path prepared
  let file := File.create id request.owner request.filename path prepared.metadata
    request.correlation env.now
  match strategy, existing with
  | .uploadThenSwap, some old => swap env file old
  | _, _ => onRecords (createRecord env file)
  return (file.detached, file.uncommitted)

end Depot.Files
