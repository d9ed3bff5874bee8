import Depot.Proofs.Accounts.Effects
import Depot.Proofs.Events.Logs
import Depot.Proofs.Service.Moves

/-!
# Nothing waits between requests

Whatever a request hands over to a dispatcher is delivered by the same request, on every
path and whatever the handlers do: all of it waits for one record, and the delivery takes
what waits for that record, even if a handler then fails.
-/

set_option autoImplicit false

namespace Depot

/-- Where nothing waits for an account, nothing does afterwards. -/
def Frame.idleAccounts : Frame := preserving (·.accountEvents.pending = [])

/-- Where nothing waits for a file, nothing does afterwards. -/
def Frame.idleFiles : Frame := preserving (·.fileEvents.pending = [])

namespace Act

variable {ε α : Type} {act : Act ε α}

theorem Keeps.idleAccounts (kept : act.Keeps .quietAccounts) : act.Keeps .idleAccounts := by
  intro state nothing
  exact (congrArg Dispatcher.pending (kept state).1).trans nothing

theorem Keeps.idleFiles (kept : act.Keeps .quietFiles) : act.Keeps .idleFiles := by
  intro state nothing
  exact (congrArg Dispatcher.pending (kept state).1).trans nothing

end Act

namespace Accounts

open Act

variable {env : Env} {state after : State}

theorem idle_dispatch {id : Uuid} {result : Except Failure Unit}
    (waits : state.accountEvents.WaitsOnly id)
    (ran : (dispatch env id).runOn state = (result, after)) : after.accountEvents.pending = [] := by
  have taken := (accounts_dispatch env id state).2
  rw [ran, waits.release] at taken
  exact congrArg Dispatcher.pending taken

theorem idle_delete (id correlation : Uuid) : (delete env id correlation).Keeps .idleAccounts := by
  intro state nothing
  change Leaves (·.accountEvents.pending = []) ((delete env id correlation).runOn state)
  have looks := (kept_looking Frame.quietAccounts_accounts (keeps_userById env id)).idleAccounts
  refine bind_cases (fun failure middle ran => looks.allows ran nothing) fun found middle ran => ?_
  have nothing := looks.allows ran nothing
  cases found with
  | none => exact nothing
  | some user =>
    dsimp only
    rw [runOn_bind_ok (runOn_markPending _ middle)]
    have waits : (middle.accountEvents.push user.id
        (user.markDeleted correlation env.now).uncommitted).WaitsOnly user.id := .push (.inl nothing) _
    -- Even a telling that fails has taken what waited.
    refine bind_cases (fun failure last ran => idle_dispatch waits ran) fun _ last ran => ?_
    have removing : Act.Keeps .quietAccounts (do
        let _ ← deleteRecord env user.id
        return (user.markDeleted correlation env.now).detached) :=
      .bind (kept_deleteRecord Frame.quietAccounts_accounts _) fun _ => .pure _
    exact removing.idleAccounts last (idle_dispatch waits ran)

end Accounts

namespace Files

open Act

variable {env : Env} {state after : State}

theorem idle_dispatch {id : Uuid} {result : Except Failure Unit}
    (waits : state.fileEvents.WaitsOnly id)
    (ran : (dispatch env id).runOn state = (result, after)) : after.fileEvents.pending = [] := by
  have taken := fileEvents_dispatch env id state
  rw [ran, waits.release] at taken
  exact congrArg Dispatcher.pending taken

theorem idle_removeOfOwner (owner : Owner) (correlation : Uuid) :
    (removeOfOwner env owner correlation).Keeps .idleFiles := by
  intro state nothing
  change Leaves (·.fileEvents.pending = []) ((removeOfOwner env owner correlation).runOn state)
  have looks := (kept_looking Frame.quietFiles_files
    (keeps_locate env (.byOwner owner))).idleFiles
  refine bind_cases (fun failure middle ran => looks.allows ran nothing) fun file middle ran => ?_
  have nothing := looks.allows ran nothing
  have marked : (markPending (file.markDeleted correlation env.now)).runOn middle =
      ((.ok file.detached : Except FileFailure File), { middle with
        fileEvents := middle.fileEvents.push file.id
          (file.markDeleted correlation env.now).uncommitted }) := rfl
  rw [runOn_bind_ok marked]
  have waits : (middle.fileEvents.push file.id
      (file.markDeleted correlation env.now).uncommitted).WaitsOnly file.id := .push (.inl nothing) _
  refine bind_cases (fun failure last ran => ?_) fun _ last ran => ?_
  · obtain ⟨cause, failed, -⟩ := of_mapFailure_error ran
    exact idle_dispatch waits failed
  have removing : Act.Keeps .quietFiles (do
      removeFile env file.detached
      return file.detached) :=
    .bind (kept_removeFile Frame.quietFiles_files _) fun _ => .pure _
  exact removing.idleFiles last (idle_dispatch waits (of_mapFailure_ok ran))

def File.uploaded (file : File) (correlation : Uuid) (time : Instant) : Event :=
  .of file.id correlation time (.uploaded file.id file.owner file.path.text file.metadata.mimeType
    file.metadata.size)

/-- An upload hands out the one event that tells of it. -/
theorem upload_events {strategy : ReplaceStrategy} {request : UploadRequest} {id : Uuid}
    {file : File} {events : List Event}
    (ran : (upload env strategy request id).runOn state = (.ok (file, events), after)) :
    file.id = id ∧ events = [file.uploaded request.correlation env.now] := by
  rw [upload_eq] at ran
  obtain ⟨made, _, _, rest⟩ := of_bind_ok ran
  obtain ⟨_, _, _, rest⟩ := of_bind_ok rest
  obtain ⟨_, _, _, rest⟩ := of_bind_ok rest
  obtain ⟨_, _, _, rest⟩ := of_bind_ok rest
  obtain ⟨rfl, rfl⟩ := Prod.mk.inj (Except.ok.inj (congrArg Prod.fst rest))
  exact ⟨rfl, rfl⟩

end Files

namespace Service

open Act

variable {env : Env} {app : App} {drawn : Drawn}

theorem retaining_admits : Frame.retaining.AdmitsService where
  files := Frame.retaining_files
  fileEvents := Frame.retaining_fileEvents
  accounts := Frame.retaining_accounts
  accountEvents := Frame.retaining_accountEvents

/-- A request keeps contents in memory, stored records without events, and handlers. -/
theorem retaining_act (request : Request) : (act env app drawn request).Keeps .retaining :=
  kept_act retaining_admits request fun _ _ _ _ =>
    Files.kept_upload (@Frame.retaining_files fun _ => True) _ _ fun _ => trivial

theorem idle_announceUser {user : Accounts.User} {events : List Accounts.Event}
    (own : ∀ event ∈ events, event.record = user.id) :
    (announceUser env user events).Keeps .idleAccounts := by
  intro state nothing
  have waits : (state.accountEvents.enqueue Accounts.Event.record events).WaitsOnly user.id :=
    .enqueue (.inl nothing) own
  exact Accounts.idle_dispatch waits rfl

theorem idle_announceFile {file : Files.File} {events : List Files.Event}
    (own : ∀ event ∈ events, event.record = file.id) :
    (announceFile env file events).Keeps .idleFiles := by
  intro state nothing
  have waits : (state.fileEvents.enqueue Files.Event.record events).WaitsOnly file.id :=
    .enqueue (.inl nothing) own
  exact Files.idle_dispatch waits rfl

variable (env app drawn) in
/-- What a request hands over for an account is delivered by the request. -/
theorem idleAccounts_act (request : Request) :
    (act env app drawn request).Keeps .idleAccounts := by
  have asks {ε α : Type} {act : Act ε α} (looks : act.Keeps .looking) : act.Keeps .idleAccounts :=
    (Accounts.kept_looking Frame.quietAccounts_accounts looks).idleAccounts
  cases asked : request.wish with
  | none => exact asks (keeps_act env app drawn asked)
  | some wish =>
    rw [act_of_wish env app drawn asked]
    cases onAccounts : wish.onAccounts with
    | false =>
      refine (kept_fileWish Frame.quietAccounts_files
        Frame.quietAccounts_fileEvents onAccounts fun _ _ _ _ owner fields _ => ?_).idleAccounts
      exact Files.kept_upload Frame.quietAccounts_files _ _ fun _ => trivial
    | true =>
      cases wish with
      | createUser =>
        refine .bind (.ofExcept _) fun body => .bind_given (.mapFailure _
          (Accounts.kept_register Frame.quietAccounts_accounts _ _).idleAccounts) ?_
        rintro ⟨user, events⟩ state after ran
        have added := Accounts.register_ok (of_mapFailure_ok ran)
        exact .bind (idle_announceUser added.own) fun _ => .pure _
      | provisionUser =>
        refine .bind (.ofExcept _) fun body => .bind_given (.mapFailure _
          (Accounts.kept_provision Frame.quietAccounts_accounts _ _ _).idleAccounts) ?_
        rintro ⟨user, events⟩ state after ran
        refine .bind (idle_announceUser ?_) fun _ => .pure _
        rcases Accounts.provision_ok (of_mapFailure_ok ran) with ⟨rfl, -⟩ | added
        · simp
        · exact added.own
      | changeUser id =>
        exact .bind (asks (keeps_uuidPart _)) fun _ => .bind (.ofExcept _) fun _ => .bind
          (.mapFailure _ (Accounts.kept_change Frame.quietAccounts_accounts _).idleAccounts)
            fun _ => .pure _
      | deleteUser id =>
        exact .bind (asks (keeps_uuidPart _)) fun _ =>
          .bind (.mapFailure _ (Accounts.idle_delete _ _)) fun _ => .pure _
      | upload entityType entityId field => cases onAccounts
      | clearSlot entityType entityId field => cases onAccounts
      | deleteFile id => cases onAccounts

theorem idle_uploadFile (owner : Files.Owner) (query : Query) (bytes : ByteArray) :
    (uploadFile env app drawn owner query bytes).Keeps .idleFiles := by
  have looks := (Files.kept_looking Frame.quietFiles_files
    (keeps_queryPart query UploadQuery.ofQuery?)).idleFiles
  have uploading (request : Files.UploadRequest) : Act.Keeps .idleFiles (do
      let stored ← onFiles (Files.upload env app.settings.replaceStrategy request drawn.id)
      announceFile env stored.1 stored.2
      return Reply.json 201 (viewFile env stored.1)) := by
    refine .bind_given (.mapFailure _ (Files.kept_upload Frame.quietFiles_files
      _ _ fun _ => trivial).idleFiles) ?_
    rintro ⟨file, events⟩ state after ran
    obtain ⟨-, rfl⟩ := Files.upload_events (of_mapFailure_ok ran)
    refine .bind (idle_announceFile fun event member => ?_) fun _ => .pure _
    rw [List.mem_singleton.1 member]
    rfl
  refine .bind looks fun fields => ?_
  split
  · exact .bind (.throw _) fun _ => uploading _
  · exact uploading _

variable (env app drawn) in
/-- What a request hands over for a file is delivered by the request. -/
theorem idleFiles_act (request : Request) : (act env app drawn request).Keeps .idleFiles := by
  have asks {ε α : Type} {act : Act ε α} (looks : act.Keeps .looking) : act.Keeps .idleFiles :=
    (Files.kept_looking Frame.quietFiles_files looks).idleFiles
  cases asked : request.wish with
  | none => exact asks (keeps_act env app drawn asked)
  | some wish =>
    rw [act_of_wish env app drawn asked]
    cases onAccounts : wish.onAccounts with
    | true =>
      exact (kept_accountWish Frame.quietFiles_files Frame.quietFiles_accountEvents
        Frame.quietFiles_accounts _ _ onAccounts).idleFiles
    | false =>
      cases wish with
      | upload entityType entityId field =>
        exact .bind (asks (keeps_ownerParts _ _ _)) fun _ => idle_uploadFile _ _ _
      | clearSlot entityType entityId field =>
        exact .bind (asks (keeps_ownerParts _ _ _)) fun _ =>
          .bind (.mapFailure _ (Files.idle_removeOfOwner _ _)) fun _ => .pure _
      | deleteFile id =>
        exact .bind (asks (keeps_uuidPart _)) fun _ => .bind (.mapFailure _ (Files.kept_remove
          Frame.quietFiles_files _).idleFiles) fun _ => .pure _
      | createUser => cases onAccounts
      | provisionUser => cases onAccounts
      | changeUser id => cases onAccounts
      | deleteUser id => cases onAccounts

end Service

end Depot
