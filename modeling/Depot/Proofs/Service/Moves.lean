import Depot.Proofs.Files.Intake
import Depot.Proofs.Service.Wishes

/-!
# The moves of the service

All that the service does is made of the moves of the two kinds of work and of the telling
of their events.  A frame that admits these is kept by every request, as long as it is kept
by the uploads that the request may make.
-/

set_option autoImplicit false

namespace Depot

/-- The frame admits every move of the service but the recording of a file. -/
structure Frame.AdmitsService (frame : Frame) : Prop where
  files : frame.AdmitsFiles fun _ => False
  fileEvents : frame.AdmitsFileEvents
  accounts : frame.AdmitsAccounts
  accountEvents : frame.AdmitsAccountEvents

namespace Service

open Act

def uploadRequest (app : App) (drawn : Drawn) (owner : Files.Owner) (fields : UploadQuery)
    (bytes : ByteArray) : Files.UploadRequest where
  owner
  bytes
  filename := fields.filename
  environment := app.settings.environment
  constraints := fields.constraints
  transform := fields.transform
  replaceExisting := fields.replace
  correlation := drawn.correlation

/-- Whether a method takes an upload at a place. -/
def Resource.TakesUpload (method : String) : Resource → Prop
  | .slot .. => method = "POST"
  | _ => False

/-- Whether a request is one for an upload. -/
def Request.TakesUpload (request : Request) : Prop :=
  ∃ resource, Resource.ofPath (Target.ofText request.target).path = some resource ∧
    resource.TakesUpload request.method

theorem takesUpload_of_wish {request : Request} {entityType entityId field : String}
    (asks : request.wish = some (.upload entityType entityId field)) : request.TakesUpload := by
  unfold Request.wish at asks
  obtain ⟨resource, found, wishes⟩ := Option.bind_eq_some_iff.1 asks
  refine ⟨resource, found, ?_⟩
  unfold Resource.wish at wishes
  split at wishes
  all_goals cases wishes
  rename_i method
  exact method

theorem need_ok {α : Type} {what : Unreadable} {given : Option α} {value : α} {state after : State}
    (ran : (need what given).runOn state = (.ok value, after)) :
    given = some value ∧ after = state := by
  cases given with
  | none => cases ran
  | some other =>
    rw [need, runOn_pure, Prod.mk.injEq, Except.ok.injEq] at ran
    exact ⟨congrArg some ran.1, ran.2.symm⟩

variable {frame : Frame} {recorded : Files.File → Prop} {env : Env} {app : App} {drawn : Drawn}
  (files : frame.AdmitsFiles recorded)

include files

section OnAccounts

variable (events : frame.AdmitsAccountEvents) (accounts : frame.AdmitsAccounts)

include events

theorem kept_announceUser (user : Accounts.User) (more : List Accounts.Event) :
    (announceUser env user more).Keeps frame :=
  .bind (Accounts.kept_enqueue events _) fun _ =>
    .mapFailure _ (Accounts.kept_dispatch events files _)

include accounts

theorem kept_accountWish (query : Query) (request : Request) {wish : Wish}
    (onAccounts : wish.onAccounts = true) :
    (wish.act env app drawn query request).Keeps frame := by
  cases wish with
  | createUser =>
    exact .bind (.ofExcept _) fun _ => .bind (.mapFailure _ (Accounts.kept_register accounts _ _))
      fun _ => .bind (kept_announceUser files events _ _) fun _ => .pure _
  | provisionUser =>
    exact .bind (.ofExcept _) fun _ => .bind (.mapFailure _ (Accounts.kept_provision accounts _ _ _))
      fun _ => .bind (kept_announceUser files events _ _) fun _ => .pure _
  | changeUser id =>
    exact .bind (Files.kept_looking files (keeps_uuidPart _)) fun _ => .bind (.ofExcept _) fun _ =>
      .bind (.mapFailure _ (Accounts.kept_change accounts _)) fun _ => .pure _
  | deleteUser id =>
    exact .bind (Files.kept_looking files (keeps_uuidPart _)) fun _ =>
      .bind (.mapFailure _ (Accounts.kept_delete events files accounts _ _)) fun _ => .pure _
  | upload entityType entityId field => cases onAccounts
  | clearSlot entityType entityId field => cases onAccounts
  | deleteFile id => cases onAccounts

end OnAccounts

section OnFiles

variable (events : frame.AdmitsFileEvents)

include events

theorem kept_uploadFile (owner : Files.Owner) {query : Query} {bytes : ByteArray}
    (uploads : ∀ fields, UploadQuery.ofQuery? query = some fields →
      (Files.upload env app.settings.replaceStrategy (uploadRequest app drawn owner fields bytes)
        drawn.id).Keeps frame) :
    (uploadFile env app drawn owner query bytes).Keeps frame := by
  refine .bind_given (Files.kept_looking files (keeps_queryPart _ _)) fun fields state after ran => ?_
  have uploading : Act.Keeps frame (do
      let stored ← onFiles (Files.upload env app.settings.replaceStrategy
        (uploadRequest app drawn owner fields bytes) drawn.id)
      announceFile env stored.1 stored.2
      return Reply.json 201 (viewFile env stored.1)) :=
    .bind (.mapFailure _ (uploads fields (need_ok ran).1)) fun _ =>
      .bind (.bind (Files.kept_enqueue events _) fun _ =>
        .mapFailure _ (Files.kept_dispatch events _)) fun _ => .pure _
  split
  · exact .bind (.throw _) fun _ => uploading
  · exact uploading

theorem kept_fileWish {query : Query} {request : Request} {wish : Wish}
    (onFiles : wish.onAccounts = false)
    (uploads : ∀ entityType entityId field, wish = .upload entityType entityId field →
      ∀ owner fields, UploadQuery.ofQuery? query = some fields →
        (Files.upload env app.settings.replaceStrategy
          (uploadRequest app drawn owner fields request.body) drawn.id).Keeps frame) :
    (wish.act env app drawn query request).Keeps frame := by
  cases wish with
  | upload entityType entityId field =>
    exact .bind (Files.kept_looking files (keeps_ownerParts _ _ _)) fun owner =>
      kept_uploadFile files events owner (uploads _ _ _ rfl owner)
  | clearSlot entityType entityId field =>
    exact .bind (Files.kept_looking files (keeps_ownerParts _ _ _)) fun _ =>
      .bind (.mapFailure _ (Files.kept_removeOfOwner files events _ _)) fun _ => .pure _
  | deleteFile id =>
    exact .bind (Files.kept_looking files (keeps_uuidPart _)) fun _ =>
      .bind (.mapFailure _ (Files.kept_remove files _)) fun _ => .pure _
  | createUser => cases onFiles
  | provisionUser => cases onFiles
  | changeUser id => cases onFiles
  | deleteUser id => cases onFiles

end OnFiles

omit files in
theorem kept_act (admits : frame.AdmitsService) (request : Request)
    (uploads : request.TakesUpload → ∀ owner fields,
      UploadQuery.ofQuery? (Target.ofText request.target).query = some fields →
        (Files.upload env app.settings.replaceStrategy
          (uploadRequest app drawn owner fields request.body) drawn.id).Keeps frame) :
    (act env app drawn request).Keeps frame := by
  cases asked : request.wish with
  | none => exact Files.kept_looking admits.files (keeps_act env app drawn asked)
  | some wish =>
    rw [act_of_wish env app drawn asked]
    cases onAccounts : wish.onAccounts with
    | true => exact kept_accountWish admits.files admits.accountEvents admits.accounts _ _ onAccounts
    | false =>
      refine kept_fileWish admits.files admits.fileEvents onAccounts ?_
      rintro entityType entityId field rfl
      exact uploads (takesUpload_of_wish asked)

end Service

end Depot
