import Depot.Proofs.Files.Intake
import Depot.Proofs.Passwords.Veil

/-!
# Work on files looks alike

Work on files asks about no password, so that with the same arguments it ends the same from states
that look alike.
-/

set_option autoImplicit false

namespace Depot.Files

open Act

variable {first second : Env}

/-! ## Single calls -/

theorem alike_catalogue : Alike (· = ·) catalogue catalogue :=
  .bind .getThe fun _ _ alike => .pure alike.files

theorem alike_storeCatalogue (result : Except Failure Catalogue) :
    Alike (· = ·) (storeCatalogue result) (storeCatalogue result) :=
  .andThen (.ofExcept (.refl result)) fun files => .modifyThe fun alike => alike.withFiles files

theorem alike_enqueue {ε : Type} (events : List Event) :
    Alike (· = ·) (enqueue events : Act ε Unit) (enqueue events) :=
  fileDesk_unveiled.turn (·.enqueue Event.record events)

theorem alike_markPending {ε : Type} (file : File) :
    Alike (· = ·) (markPending file : Act ε File) (markPending file) :=
  .andThen (fileDesk_unveiled.turn (·.push file.id file.uncommitted)) fun _ => .pure rfl

section Calls

variable (alike : first.Alike second)

include alike

theorem alike_notedService (call : Call) :
    Alike CallsAlike (notedService first call) (notedService second call) :=
  .note alike.outside.backendFault rfl

theorem alike_question {α : Type} (call : Call) (answer : Catalogue → α) :
    Alike (· = ·) (do first.callRecords call; return answer (← catalogue))
      (do second.callRecords call; return answer (← catalogue)) :=
  .andThen (alike.callRecords rfl) fun _ => .andThen alike_catalogue fun _ => .pure rfl

theorem alike_write (call : Call) (change : Catalogue → Except Failure Catalogue) :
    Alike (· = ·) (do first.callRecords call; storeCatalogue (change (← catalogue)))
      (do second.callRecords call; storeCatalogue (change (← catalogue))) :=
  .andThen (alike.callRecords rfl) fun _ => .andThen alike_catalogue fun _ =>
    alike_storeCatalogue _

theorem alike_fileById (id : Uuid) : Alike (· = ·) (fileById first id) (fileById second id) :=
  alike_question alike _ _

theorem alike_fileByPath (path : String) :
    Alike (· = ·) (fileByPath first path) (fileByPath second path) :=
  alike_question alike _ _

theorem alike_filesOfEntity (entityType entityId : String) :
    Alike (· = ·) (filesOfEntity first entityType entityId)
      (filesOfEntity second entityType entityId) :=
  alike_question alike _ _

theorem alike_currentFile (owner : Owner) :
    Alike (· = ·) (currentFile first owner) (currentFile second owner) :=
  alike_question alike _ _

theorem alike_createRecord (file : File) :
    Alike (· = ·) (createRecord first file) (createRecord second file) :=
  alike_write alike _ _

theorem alike_deleteRecord (id : Uuid) :
    Alike (· = ·) (deleteRecord first id) (deleteRecord second id) :=
  .andThen (alike.callRecords rfl) fun _ => .andThen alike_catalogue fun _ =>
    .andThen (alike_storeCatalogue _) fun _ => .pure rfl

theorem alike_deleteRecordsOfEntity (entityType entityId : String) :
    Alike (· = ·) (deleteRecordsOfEntity first entityType entityId)
      (deleteRecordsOfEntity second entityType entityId) :=
  .andThen (alike.callRecords rfl) fun _ => .andThen alike_catalogue fun _ =>
    .andThen (alike_storeCatalogue _) fun _ => .pure rfl

theorem alike_changeBlobs (call : Call)
    (change : Blobs.Store → Except BackendFailure Unit × Blobs.Store) :
    Alike (· = ·) (changeBlobs first call change) (changeBlobs second call change) := by
  refine .bind (alike_notedService alike call) fun _ _ _ => .bind .getThe ?_
  intro one other states
  dsimp only
  rw [states.blobs]
  exact .andThen (.set (states.withBlobs _)) fun _ => .ofExcept (.refl _)

theorem alike_uploadBlob (bytes : ByteArray) (target : UploadTarget) :
    Alike (· = ·) (uploadBlob first bytes target) (uploadBlob second bytes target) :=
  alike_changeBlobs alike _ _

theorem alike_deleteBlob (path : String) :
    Alike (· = ·) (deleteBlob first path) (deleteBlob second path) :=
  alike_changeBlobs alike _ _

theorem alike_signedUrl (path : String) (minutes : Nat) :
    Alike (· = ·) (signedUrl first path minutes) (signedUrl second path minutes) := by
  refine .bind (alike_notedService alike _) fun _ _ _ => .bind .getThe ?_
  intro one other states
  rw [states.blobs, alike.now, alike.book]
  exact .ofExcept (.refl _)

theorem alike_detectType (bytes : ByteArray) :
    Alike (· = ·) (detectType first bytes) (detectType second bytes) :=
  .bind (alike_notedService alike _) fun _ _ calls =>
    .pure (congrFun (alike.outside.mimeType calls) bytes)

theorem alike_measurePicture (bytes : ByteArray) :
    Alike (· = ·) (measurePicture first bytes) (measurePicture second bytes) :=
  .bind (alike_notedService alike _) fun _ _ calls =>
    .pure (congrFun (alike.outside.sides calls) bytes)

theorem alike_transformPicture (bytes : ByteArray) (request : Pictures.Transform) :
    Alike (· = ·) (transformPicture first bytes request) (transformPicture second bytes request) := by
  refine .bind (alike_notedService alike _) fun calls others same => ?_
  rw [alike.outside.transform same]
  exact .ofExcept (.refl _)

end Calls

/-! ## Looking at files -/

section Looking

variable (alike : first.Alike second)

include alike

theorem alike_locate (locator : Locator) :
    Alike (· = ·) (locate first locator) (locate second locator) := by
  refine .andThen (.mapFailure _ ?_) fun found => ?_
  · cases locator with
    | byId id => exact alike_fileById alike id
    | byOwner owner => exact alike_currentFile alike owner
  · cases found with
    | none => exact .throw _
    | some file => exact .pure rfl

theorem alike_link (locator : Locator) (minutes : Option Nat) :
    Alike (· = ·) (link first locator minutes) (link second locator minutes) := by
  refine .andThen (alike_locate alike locator) fun file => ?_
  cases minutes with
  | none =>
    refine .andThen (.pure ?_) fun _ => .pure rfl
    rw [alike.book]
  | some minutes =>
    exact .andThen (.mapFailure _ (alike_signedUrl alike _ minutes)) fun _ => .pure rfl

end Looking

/-! ## Taking in -/

section Upload

variable (alike : first.Alike second)

include alike

theorem alike_judge (limits : Constraints) (bytes : ByteArray) :
    Alike (· = ·) (limits.judge bytes.size (detectType first bytes) (measurePicture first bytes))
      (limits.judge bytes.size (detectType second bytes) (measurePicture second bytes)) := by
  refine .andThen (alike_detectType alike bytes) fun detected => ?_
  cases detected with
  | none => exact .pure rfl
  | some mimeType =>
    have measured : Alike (· = ·)
        (do
          if isImageType mimeType && limits.hasBounds then
            return limits.judgeSides mimeType (← measurePicture first bytes)
          return Constraints.Verdict.valid mimeType)
        (do
          if isImageType mimeType && limits.hasBounds then
            return limits.judgeSides mimeType (← measurePicture second bytes)
          return Constraints.Verdict.valid mimeType) := by
      split
      · exact .andThen (alike_measurePicture alike bytes) fun _ => .pure rfl
      · exact .pure rfl
    dsimp only
    split
    · exact .pure rfl
    · cases limits.maxSizeBytes with
      | none => exact measured
      | some limit =>
        dsimp only
        split
        · exact .pure rfl
        · exact measured

theorem alike_enforce (request : UploadRequest) :
    Alike (· = ·) (enforce first request) (enforce second request) := by
  unfold enforce
  cases request.constraints with
  | none => exact .pure rfl
  | some limits =>
    refine .andThen (.mapFailure _ (alike_judge alike limits _)) fun verdict => ?_
    cases verdict.failure? limits with
    | none => exact .pure rfl
    | some failure => exact .throw failure

theorem alike_recognise (bytes : ByteArray) :
    Alike (· = ·) (recognise first bytes) (recognise second bytes) := by
  refine .andThen (.mapFailure _ (alike_detectType alike bytes)) fun detected => ?_
  cases detected with
  | none => exact .throw _
  | some mimeType => exact .pure rfl

theorem alike_prepare (request : UploadRequest) (mimeType : String) :
    Alike (· = ·) (prepare first request mimeType) (prepare second request mimeType) := by
  unfold prepare
  split
  · cases request.transform with
    | some change =>
      exact .andThen (.mapFailure _ (alike_transformPicture alike _ change)) fun _ => .pure rfl
    | none => exact .andThen (.mapFailure _ (alike_measurePicture alike _)) fun _ => .pure rfl
  · exact .pure rfl

theorem alike_fileToReplace (request : UploadRequest) :
    Alike (· = ·) (fileToReplace first request) (fileToReplace second request) :=
  .andThen (.mapFailure _ (alike_currentFile alike _)) fun _ => .pure rfl

theorem alike_refuseOccupied (path : Path) (existing : Option File) :
    Alike (· = ·) (refuseOccupied first path existing) (refuseOccupied second path existing) := by
  refine .andThen (.mapFailure _ (alike_fileByPath alike _)) fun occupant => ?_
  cases occupant with
  | none => exact .pure rfl
  | some other =>
    dsimp only
    split
    · exact .pure rfl
    · exact .throw _

theorem alike_removeFile (file : File) :
    Alike (· = ·) (removeFile first file) (removeFile second file) :=
  .andThen (.mapFailure _ (alike_deleteBlob alike _)) fun _ =>
    .andThen (.mapFailure _ (alike_deleteRecord alike _)) fun _ => .pure rfl

theorem alike_swap (file old : File) :
    Alike (· = ·) (swap first file old) (swap second file old) := by
  unfold swap
  split
  · exact .andThen (.mapFailure _ (alike_deleteRecord alike _)) fun _ =>
      .mapFailure _ (alike_createRecord alike _)
  · exact .andThen (.mapFailure _ (alike_createRecord alike _)) fun _ =>
      .bind (.outcome (alike_deleteRecord alike _)) fun _ _ _ =>
        .bind (.outcome (alike_deleteBlob alike _)) fun _ _ _ => .pure rfl

theorem alike_plan (request : UploadRequest) :
    Alike (· = ·) (plan first request) (plan second request) := by
  unfold plan placeFor
  rw [alike.now]
  exact .andThen (alike_enforce alike request) fun _ =>
    .andThen (alike_recognise alike _) fun _ => .andThen (alike_prepare alike request _) fun _ =>
      .andThen (alike_fileToReplace alike request) fun _ => .andThen (.ofExcept (.refl _)) fun _ =>
        .andThen (alike_refuseOccupied alike _ _) fun _ => .pure rfl

theorem alike_makeRoom (strategy : ReplaceStrategy) (existing : Option File) :
    Alike (· = ·) (makeRoom first strategy existing) (makeRoom second strategy existing) := by
  unfold makeRoom
  split
  · exact alike_removeFile alike _
  · exact .pure rfl

theorem alike_enter (strategy : ReplaceStrategy) (file : File) (existing : Option File) :
    Alike (· = ·) (enter first strategy file existing) (enter second strategy file existing) := by
  unfold enter
  split
  · exact alike_swap alike file _
  · exact .mapFailure _ (alike_createRecord alike file)

theorem alike_upload (strategy : ReplaceStrategy) (request : UploadRequest) (id : Uuid) :
    Alike (· = ·) (upload first strategy request id) (upload second strategy request id) := by
  rw [upload_eq, upload_eq]
  refine .andThen (alike_plan alike request) fun made => ?_
  have file : made.file first request id = made.file second request id := by
    rw [Plan.file, Plan.file, alike.now]
  unfold carryOut
  rw [file]
  exact .andThen (alike_makeRoom alike strategy _) fun _ =>
    .andThen (.mapFailure _ (alike_uploadBlob alike _ _)) fun _ =>
      .andThen (alike_enter alike strategy _ _) fun _ => .pure rfl

end Upload

/-! ## Removing -/

section Removal

variable (alike : first.Alike second)

include alike

theorem alike_remove (id : Uuid) : Alike (· = ·) (remove first id) (remove second id) :=
  .andThen (alike_locate alike _) fun file => .andThen (alike_removeFile alike file) fun _ =>
    .pure rfl

theorem alike_handle (handler : FileHandler) (event : Event) :
    Alike (· = ·) (handle first handler event) (handle second handler event) := by
  cases handler with
  | recorder name => exact alike.callRecords rfl
  | refuser failure => exact .throw failure

theorem alike_dispatch (id : Uuid) : Alike (· = ·) (dispatch first id) (dispatch second id) :=
  fileDesk_unveiled.dispatch (alike_handle alike) id

theorem alike_removeOfOwner (owner : Owner) (correlation : Uuid) :
    Alike (· = ·) (removeOfOwner first owner correlation)
      (removeOfOwner second owner correlation) := by
  unfold removeOfOwner
  rw [alike.now]
  exact .andThen (alike_locate alike _) fun _ => .andThen (alike_markPending _) fun file =>
    .andThen (.mapFailure _ (alike_dispatch alike _)) fun _ =>
      .andThen (alike_removeFile alike file) fun _ => .pure rfl

theorem alike_removeContents (policy : CascadePolicy) (files : List File) :
    Alike (· = ·) (removeContents first policy files) (removeContents second policy files) := by
  induction files with
  | nil => exact .pure rfl
  | cons file rest ih =>
    rw [removeContents, removeContents]
    refine .bind (.outcome (alike_deleteBlob alike _)) fun result other results => ?_
    rw [results.eq]
    cases other with
    | ok done => exact ih
    | error failure =>
      dsimp only
      split
      · exact ih
      · exact .throw _

theorem alike_removeOfUser (policy : CascadePolicy) (user : Uuid) :
    Alike (· = ·) (removeOfUser first policy user) (removeOfUser second policy user) :=
  .andThen (.mapFailure _ (alike_filesOfEntity alike _ _)) fun _ =>
    .andThen (alike_removeContents alike policy _) fun _ =>
      .mapFailure _ (alike_deleteRecordsOfEntity alike _ _)

end Removal

end Depot.Files
