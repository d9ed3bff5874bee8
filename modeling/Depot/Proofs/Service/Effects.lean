import Depot.Proofs.Accounts.Effects
import Depot.Proofs.Service.Wishes

/-!
# What a request does

Whatever a request asks for, the files make at most one turn, with the identifier drawn
for the request.  Most of a request only reads; the rest is one use case and the telling of
its events.
-/

set_option autoImplicit false

namespace Depot.Service

open Act

variable (env : Env) (app : App) (drawn : Drawn)

theorem keeps_announceFile (file : Files.File) (events : List Files.Event) :
    (announceFile env file events).Keeps .sparing :=
  .bind (Files.keeps_enqueue _) fun _ => .mapFailure _ (Files.keeps_dispatch env _)

/-! ## Turns -/

section Turns

variable {env} (reliable : env.outside.Reliable "files")

include reliable

theorem calms_announceUser (user : Accounts.User) (events : List Accounts.Event) :
    (announceUser env user events).Keeps (.calmly env) :=
  .bind (Accounts.calms_enqueue _) fun _ => .mapFailure _ (Accounts.calms_dispatch reliable _)

theorem calms_createUser (request : Request) :
    (createUser env app drawn request).Keeps (.calmly env) :=
  .bind (.ofExcept _) fun _ => .bind (.mapFailure _ (Accounts.keeps_register env _ _).calms)
    fun _ => .bind (calms_announceUser reliable _ _) fun _ => .pure _

theorem calms_provisionUser (request : Request) :
    (provisionUser env app drawn request).Keeps (.calmly env) :=
  .bind (.ofExcept _) fun _ => .bind (.mapFailure _ (Accounts.keeps_provision env _ _ _).calms)
    fun _ => .bind (calms_announceUser reliable _ _) fun _ => .pure _

theorem calms_deleteUser (id : String) : (deleteUser env drawn id).Keeps (.calmly env) :=
  .bind (keeps_uuidPart _).spares.accounts.calms fun _ =>
    .bind (.mapFailure _ (Accounts.calms_delete reliable _ _)) fun _ => .pure _

section Upload

variable {makes : Uuid → Prop} (new : makes drawn.id)

include new

theorem turns_uploadFile (owner : Files.Owner) (query : Query) (bytes : ByteArray) :
    (uploadFile env app drawn owner query bytes).Turns env makes := by
  have uploading (request : Files.UploadRequest) : Act.Turns env makes (do
      let stored ← onFiles (Files.upload env app.settings.replaceStrategy request drawn.id)
      announceFile env stored.1 stored.2
      return Reply.json 201 (viewFile env stored.1)) :=
    .before (.mapFailure _ (Files.turns_upload reliable _ _ new)) fun _ =>
      .bind (keeps_announceFile env _ _) fun _ => .pure _
  refine .after (keeps_queryPart _ _).spares.accounts fun fields => ?_
  split
  · exact .after (.throw _) fun _ => uploading _
  · exact uploading _

/-- Whatever a request asks for, the files make at most one turn. -/
theorem turns_act (request : Request) : (act env app drawn request).Turns env makes := by
  cases asked : request.wish with
  | none => exact .of_calm (keeps_act env app drawn asked).spares.accounts.calms
  | some wish =>
    rw [act_of_wish env app drawn asked]
    cases wish with
    | createUser => exact .of_calm (calms_createUser app drawn reliable _)
    | provisionUser => exact .of_calm (calms_provisionUser app drawn reliable _)
    | changeUser id =>
      exact .of_calm (.bind (keeps_uuidPart _).spares.accounts.calms fun _ =>
        .bind (.ofExcept _) fun _ =>
          .bind (.mapFailure _ (Accounts.keeps_change env _).calms) fun _ => .pure _)
    | deleteUser id => exact .of_calm (calms_deleteUser drawn reliable _)
    | upload entityType entityId field =>
      exact .after (keeps_ownerParts _ _ _).spares.accounts fun _ =>
        turns_uploadFile app drawn reliable new _ _ _
    | clearSlot entityType entityId field =>
      exact .of_calm (.bind (keeps_ownerParts _ _ _).spares.accounts.calms fun _ =>
        .bind (.mapFailure _ (Files.calms_removeOfOwner reliable _ _)) fun _ => .pure _)
    | deleteFile id =>
      exact .of_calm (.bind (keeps_uuidPart _).spares.accounts.calms fun _ =>
        .bind (.mapFailure _ (Files.calms_remove reliable _)) fun _ => .pure _)

end Upload

end Turns

end Depot.Service
