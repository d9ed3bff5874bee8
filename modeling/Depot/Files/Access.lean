import Depot.State

/-!
Calls to the stored file records, to the store of contents, and to the services that look at
contents and work on pictures. Each is noted before it is made.
-/

namespace Depot.Files

variable (env : Env)

/-! ## Records -/

def catalogue : Act Failure Catalogue := return (← getThe State).files

def storeCatalogue (result : Except Failure Catalogue) : Act Failure Unit := do
  let files ← Act.ofExcept result
  modifyThe State fun state => { state with files }

def fileById (id : Uuid) : Act Failure (Option File) := do
  env.callRecords (.findFileById id)
  return (← catalogue).findById? id

def fileByPath (path : String) : Act Failure (Option File) := do
  env.callRecords (.findFileByPath path)
  return (← catalogue).findByPath? path

def filesOfEntity (entityType entityId : String) : Act Failure (List File) := do
  env.callRecords (.findFilesOfEntity entityType entityId)
  return (← catalogue).ofEntity entityType entityId

def currentFile (owner : Owner) : Act Failure (Option File) := do
  env.callRecords (.findCurrentFile owner)
  return (← catalogue).current? owner

def createRecord (file : File) : Act Failure Unit := do
  env.callRecords (.createFile file)
  storeCatalogue ((← catalogue).insert file)

def updateRecord (file : File) : Act Failure Unit := do
  env.callRecords (.updateFile file)
  storeCatalogue ((← catalogue).update file)

def deleteRecord (id : Uuid) : Act Failure (Option File) := do
  env.callRecords (.deleteFile id)
  let files ← catalogue
  storeCatalogue (.ok (files.erase id))
  return files.findById? id

def deleteRecordsOfEntity (entityType entityId : String) : Act Failure Nat := do
  env.callRecords (.deleteFilesOfEntity entityType entityId)
  let files ← catalogue
  storeCatalogue (.ok (files.eraseOfEntity entityType entityId))
  return files.countOfEntity entityType entityId

/-! ## Contents -/

def notedService (call : Call) : Act BackendFailure (List Call) :=
  Act.note env.outside.backendFault call

def changeBlobs (call : Call) (act : Blobs.Store → Except BackendFailure Unit × Blobs.Store) :
    Act BackendFailure Unit := do
  let _ ← notedService env call
  let state ← getThe State
  let (result, blobs) := act state.blobs
  set { state with blobs }
  Act.ofExcept result

def uploadBlob (bytes : ByteArray) (target : UploadTarget) : Act BackendFailure Unit :=
  changeBlobs env (.uploadBlob bytes target) (·.upload target.path ⟨bytes, target.mimeType⟩)

def deleteBlob (path : String) : Act BackendFailure Unit :=
  changeBlobs env (.deleteBlob path) (·.delete path)

def copyBlob (source target : String) : Act BackendFailure Unit :=
  changeBlobs env (.copyBlob source target) (·.copy source target)

def blobExists (path : String) : Act BackendFailure Bool := do
  let _ ← notedService env (.lookForBlob path)
  Act.ofExcept ((← getThe State).blobs.contains path)

def signedUrl (path : String) (minutes : Nat) : Act BackendFailure String := do
  let _ ← notedService env (.signBlob path minutes)
  Act.ofExcept ((← getThe State).blobs.signedUrl env.book env.now path minutes)

/-! ## Inspection and pictures -/

def detectType (bytes : ByteArray) : Act BackendFailure (Option String) :=
  return env.outside.mimeType (← notedService env (.detectType bytes)) bytes

def measurePicture (bytes : ByteArray) : Act BackendFailure (Option Pictures.Sides) :=
  return env.outside.sides (← notedService env (.measurePicture bytes)) bytes

def transformPicture (bytes : ByteArray) (request : Pictures.Transform) :
    Act BackendFailure Pictures.Rendition := do
  let calls ← notedService env (.transformPicture bytes request)
  Act.ofExcept (env.outside.transform calls bytes request)

/-! ## In the terms of files -/

def onRecords (act : Act Failure α) : Act FileFailure α := act.mapFailure .records

def onServices (act : Act BackendFailure α) : Act FileFailure α := act.mapFailure .ofBackend

end Depot.Files
