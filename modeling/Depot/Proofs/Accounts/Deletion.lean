import Depot.Proofs.Accounts.Effects
import Depot.Proofs.Events.Waiting
import Depot.Proofs.Runs

/-!
# A deletion is told before it is done

Every handler has taken the event of a deletion before the user is removed.  A handler that
fails ends the deletion with its failure: the users are as they were, no further handler is
told, and nothing is left waiting, so that a later attempt tells the handlers anew.  This
holds whatever handlers do to files and contents, as long as they leave the users and what
waits of them alone.
-/

set_option autoImplicit false

namespace Depot

/-- The users and what waits of them stay, and no call is made to the stored users. -/
def Frame.aside : Frame where
  Allows before after := after.users = before.users ∧ after.accountEvents = before.accountEvents ∧
    ∃ added, after.calls = added ++ before.calls ∧ ∀ call ∈ added, call.service? ≠ some "users"
  stay _ := ⟨rfl, rfl, [], rfl, by simp⟩
  chain := by
    rintro first second third ⟨users, events, early, earlyCalls, earlyOthers⟩
      ⟨users', events', late, lateCalls, lateOthers⟩
    refine ⟨users'.trans users, events'.trans events, late ++ early, ?_, fun call member => ?_⟩
    · rw [lateCalls, earlyCalls, List.append_assoc]
    · rcases List.mem_append.1 member with member | member
      · exact lateOthers call member
      · exact earlyOthers call member

theorem Frame.aside_noted {call : Call} (elsewhere : call.service? ≠ some "users") (state : State) :
    aside.Allows state (state.noted call) :=
  ⟨rfl, rfl, [call], rfl, by simpa using elsewhere⟩

/-- The file records stay. -/
def Frame.shelved : Frame where
  Allows before after := after.files = before.files
  stay _ := rfl
  chain early late := late.trans early

/-! ## Where the removal of contents stops -/

namespace Files

open Act

variable {env : Env} {policy : CascadePolicy} {state after : State} {failure : BackendFailure}

/-- The content of one of the files cannot be removed, and those before it could. -/
def Stuck (env : Env) (policy : CascadePolicy) (files : List File) (state : State)
    (failure : BackendFailure) (after : State) : Prop :=
  ∃ done file rest reached, files = done ++ file :: rest ∧
    (removeContents env policy done).runOn state = (.ok (), reached) ∧
    (deleteBlob env file.path.text).runOn reached = (.error failure, after)

theorem removeContents_append (done rest : List File) :
    removeContents env policy (done ++ rest) =
      removeContents env policy done >>= fun _ => removeContents env policy rest := by
  induction done with
  | nil => rw [List.nil_append, removeContents, pure_bind]
  | cons file more ih =>
    rw [List.cons_append, removeContents, removeContents, bind_assoc, ih]
    congr 1
    funext result
    cases result with
    | ok _ => rfl
    | error failure =>
      dsimp only
      split
      · rfl
      · rw [bind_assoc]

theorem shelved_removeContents (files : List File) :
    (removeContents env policy files).Keeps .shelved :=
  removeContents_of_each (fun _ state => files_changeBlobs _ _ state) policy files

theorem Stuck.removeContents {files : List File}
    (stuck : Stuck env policy files state failure after)
    (stops : policy.continueOnItemFailure = false) :
    (Files.removeContents env policy files).runOn state = (.error (.ofBackend failure), after) ∧
      after.files = state.files := by
  obtain ⟨done, file, rest, reached, rfl, cleared, refused⟩ := stuck
  constructor
  · rw [removeContents_append, runOn_bind_ok cleared, Files.removeContents, runOn_bind,
      runOn_outcome, refused]
    simp only [stops]
    rfl
  · have last : Frame.shelved.Allows reached after := by
      have moved := @files_changeBlobs env (.deleteBlob file.path.text)
        (·.delete file.path.text) reached
      rw [← deleteBlob, refused] at moved
      exact moved
    exact Frame.shelved.chain ((shelved_removeContents done).allows cleared) last

/-- A remover that stops at a failure has taken no record away. -/
theorem Stuck.removeOfUser {user : Uuid}
    (listed : env.outside.recordFault (.findFilesOfEntity userEntity user.text :: state.calls) =
      none)
    (stuck : Stuck env policy (state.files.ofEntity userEntity user.text)
      (state.noted (.findFilesOfEntity userEntity user.text)) failure after)
    (stops : policy.continueOnItemFailure = false) :
    (Files.removeOfUser env policy user).runOn state = (.error (.ofBackend failure), after) ∧
      after.files = state.files := by
  obtain ⟨ended, files⟩ := stuck.removeContents stops
  refine ⟨?_, files⟩
  have listing : (onRecords (filesOfEntity env userEntity user.text)).runOn state =
      (.ok (state.files.ofEntity userEntity user.text),
        state.noted (.findFilesOfEntity userEntity user.text)) := by
    rw [onRecords, filesOfEntity, runOn_mapFailure, runOn_question, listed]
    rfl
  rw [Files.removeOfUser, runOn_bind_ok listing, runOn_bind_error ended]

/-! ## What the remover leaves alone -/

theorem aside_deleteBlob (path : String) : (deleteBlob env path).Keeps .aside := by
  intro state
  have elsewhere : (Call.deleteBlob path).service? ≠ some "users" := by
    simp [Call.service?, Call.target?]
  have asked := Frame.aside_noted elsewhere state
  rw [deleteBlob, runOn_changeBlobs]
  cases env.outside.backendFault (.deleteBlob path :: state.calls) <;> exact asked

theorem aside_filesOfEntity (entityType entityId : String) :
    (filesOfEntity env entityType entityId).Keeps .aside := by
  intro state
  rw [filesOfEntity, runOn_question]
  exact Frame.aside_noted (by simp [Call.service?, Call.target?]) state

theorem aside_deleteRecordsOfEntity (entityType entityId : String) :
    (deleteRecordsOfEntity env entityType entityId).Keeps .aside := by
  intro state
  have elsewhere : (Call.deleteFilesOfEntity entityType entityId).service? ≠ some "users" := by
    simp [Call.service?, Call.target?]
  have asked := Frame.aside_noted elsewhere state
  rw [runOn_deleteRecordsOfEntity]
  cases env.outside.recordFault (.deleteFilesOfEntity entityType entityId :: state.calls) <;>
    exact asked

theorem aside_removeOfUser (user : Uuid) : (Files.removeOfUser env policy user).Keeps .aside :=
  .bind (.mapFailure _ (aside_filesOfEntity _ _)) fun _ =>
    .bind (removeContents_of_each aside_deleteBlob policy _) fun _ =>
      .mapFailure _ (aside_deleteRecordsOfEntity _ _)

end Files

namespace Accounts

theorem aside_handle (env : Env) (handler : AccountHandler) (event : Event) :
    (handle env handler event).Keeps .aside := by
  cases handler with
  | recorder name =>
    have elsewhere : (Call.handledAccount name event).service? ≠ some "users" := by
      simp [Call.service?, Call.target?]
    exact .bind (.noting (Frame.aside_noted elsewhere)) fun _ => .pure _
  | refuser failure => exact .throw _
  | fileRemover policy =>
    rw [handle]
    cases event.payload with
    | userCreated user name email => exact .pure _
    | userDeleted user =>
      exact .bind (.mapFailure _ (Files.aside_removeOfUser user)) fun _ => .pure _

open Act

/-! ## Handlers that act in any way -/

section Telling

variable (env : Env) (run : AccountHandler → Event → Act Failure Unit)

/-- Delivers the events that wait for an account, to handlers that act in a given way. -/
def dispatchTo (id : Uuid) : Act Failure Unit := do
  let state ← getThe State
  let waiting := state.accountEvents.waiting id
  set { state with accountEvents := state.accountEvents.release id }
  state.accountEvents.deliver Event.topic run waiting

/-- Deletes an account, with handlers that act in a given way. -/
def deleteTelling (id correlation : Uuid) : Act Failure User := do
  match ← userById env id with
  | none => throw (.notFound id)
  | some user =>
    let user ← markPending (user.markDeleted correlation env.now)
    dispatchTo run user.id
    let _ ← deleteRecord env user.id
    return user

theorem deleteTelling_handle (id correlation : Uuid) :
    deleteTelling env (handle env) id correlation = delete env id correlation := rfl

/-- Handlers are told of an event one after the other, and each takes it. -/
inductive Told (event : Event) : List AccountHandler → State → State → Prop
  | nobody (state : State) : Told event [] state state
  | next {handler : AccountHandler} {rest : List AccountHandler} {state middle after : State}
    (takes : (run handler event).runOn state = (.ok (), middle))
    (others : Told event rest middle after) : Told event (handler :: rest) state after

def deletionEvent (id correlation : Uuid) : Event :=
  .of id correlation env.now (.userDeleted id)

/-- Handlers are told of a deletion, and when all have taken it the user goes. -/
def tellAndRemove (handlers : List AccountHandler) (user : User) (correlation : Uuid) :
    Act Failure User := do
  handlers.forM (run · (deletionEvent env user.id correlation))
  let _ ← deleteRecord env user.id
  return user

end Telling

section Told

variable {run : AccountHandler → Event → Act Failure Unit} {event : Event}
  {handlers rest : List AccountHandler} {state middle after : State}

theorem Told.runOn (told : Told run event handlers state middle) :
    ((handlers ++ rest).forM (run · event)).runOn state =
      (rest.forM (run · event)).runOn middle := by
  induction told with
  | nobody state => rfl
  | next takes others ih => exact (runOn_bind_ok takes).trans ih

theorem told_of_ok (ran : (handlers.forM (run · event)).runOn state = (.ok (), after)) :
    Told run event handlers state after := by
  induction handlers generalizing state with
  | nil =>
    obtain ⟨-, rfl⟩ := Prod.mk.inj ran
    exact .nobody state
  | cons handler others ih =>
    obtain ⟨_, middle, takes, ran⟩ := of_bind_ok ran
    exact .next takes (ih ran)

theorem Told.keeps {frame : Frame} (told : Told run event handlers state middle)
    (each : ∀ handler ∈ handlers, (run handler event).Keeps frame) :
    frame.Allows state middle := by
  induction told with
  | nobody state => exact frame.stay state
  | next takes others ih =>
    have first := (each _ (.head _)).allows takes
    exact frame.chain first (ih fun handler member => each handler (.tail _ member))

end Told

/-! ## One deletion -/

section Deleting

variable {env : Env} {run : AccountHandler → Event → Act Failure Unit} {id correlation : Uuid}
  {user : User} {state : State}

theorem runOn_dispatchTo {event : Event} (topic : event.topic = .userDeleted)
    (waits : state.accountEvents.waiting id = [event]) :
    (dispatchTo run id).runOn state =
      ((state.accountEvents.handlersOf .userDeleted).forM (run · event)).runOn
        { state with accountEvents := state.accountEvents.release id } := by
  have told : (dispatchTo run id).runOn state =
      (state.accountEvents.deliver Event.topic run (state.accountEvents.waiting id)).runOn
        { state with accountEvents := state.accountEvents.release id } := rfl
  rw [told, waits, Dispatcher.deliver]
  simp only [List.forM_eq_forM, List.forM_cons, List.forM_nil, topic, bind_pure_unit]

theorem detached_markDeleted (bare : user.uncommitted = []) (time : Instant) :
    (user.markDeleted correlation time).detached = user := by
  cases user
  cases bare
  rfl

theorem runOn_deleteTelling (found : state.users.findById? id = some user)
    (bare : user.uncommitted = []) (idle : state.accountEvents.isPending id = false)
    (asked : env.outside.recordFault (.findUserById id :: state.calls) = none) :
    (deleteTelling env run id correlation).runOn state =
      (tellAndRemove env run (state.accountEvents.handlersOf .userDeleted) user correlation).runOn
        (state.noted (.findUserById id)) := by
  obtain rfl : user.id = id := by simpa using List.find?_some found
  have answer : (userById env user.id).runOn state =
      (.ok (some user), state.noted (.findUserById user.id)) := by
    rw [runOn_userById, asked, found]
  -- Nothing waits of the user, so to note the event and to release it again comes to nothing.
  let event := deletionEvent env user.id correlation
  have noted : (user.markDeleted correlation env.now).uncommitted = [event] := by
    rw [User.markDeleted, User.note, bare, List.nil_append]
    rfl
  let waiting : State := { state.noted (.findUserById user.id) with
    accountEvents := state.accountEvents.push user.id [event] }
  have waits : waiting.accountEvents.waiting user.id = [event] := by
    rw [Dispatcher.waiting_push, Dispatcher.waiting_of_idle idle, if_pos rfl, List.nil_append]
  have told := @runOn_dispatchTo run user.id waiting event rfl waits
  have handlers : waiting.accountEvents.handlersOf .userDeleted =
      state.accountEvents.handlersOf .userDeleted :=
    Dispatcher.handlersOf_congr (Dispatcher.push_handlers _ _ _) _
  have released : waiting.accountEvents.release user.id = state.accountEvents :=
    Dispatcher.release_push idle [event] (List.cons_ne_nil _ _)
  rw [handlers, released] at told
  have marked := @runOn_markPending Failure (user.markDeleted correlation env.now)
    (state.noted (.findUserById user.id))
  rw [noted, detached_markDeleted bare] at marked
  rw [deleteTelling, runOn_bind_ok answer]
  refine (runOn_bind_ok marked).trans ?_
  rw [tellAndRemove]
  exact runOn_bind_congr told _

theorem not_yet_removed {after : State} {earlier : List Call} {other : Uuid}
    (moved : Frame.aside.Allows (state.noted (.findUserById id)) after)
    (since : state.calls <:+ earlier) : ¬ .deleteUser other :: earlier <:+ after.calls := by
  intro called
  obtain ⟨-, -, added, around, elsewhere⟩ := moved
  have whole : after.calls = (added ++ [.findUserById id]) ++ state.calls := by
    rw [around, State.noted_calls, List.append_assoc, List.singleton_append]
  rw [whole] at called
  refine @not_passed_append state.calls (added ++ [.findUserById id])
    (fun calls => ∃ user rest, calls = .deleteUser user :: rest) ?_ ⟨_, _, called, since, _, _, rfl⟩
  rintro call member rest ⟨user, before, same⟩
  obtain rfl : call = .deleteUser user := (List.cons.inj same).1
  rcases List.mem_append.1 member with told | asked
  · exact elsewhere _ told rfl
  · cases List.mem_singleton.1 asked

/-- The deletion of a known user has come to a handler, and those before it have taken the
event. -/
structure Reached (env : Env) (run : AccountHandler → Event → Act Failure Unit)
    (id correlation : Uuid) (state : State) (user : User) (before : List AccountHandler)
    (handler : AccountHandler) (later : List AccountHandler) (middle : State) : Prop where
  found : state.users.findById? id = some user
  asked : env.outside.recordFault (.findUserById id :: state.calls) = none
  order : state.accountEvents.handlersOf .userDeleted = before ++ handler :: later
  told : Told run (deletionEvent env id correlation) before (state.noted (.findUserById id)) middle

/-- What a deletion owes to the handlers that are to be told of it. -/
structure ToldFirst (env : Env) (run : AccountHandler → Event → Act Failure Unit)
    (id correlation : Uuid) (state : State) (ended : Except Failure User × State) : Prop where
  /-- When it is asked to remove a user, all handlers have taken the event. -/
  removed : ∀ user earlier, .deleteUser user :: earlier <:+ ended.2.calls →
    state.calls <:+ earlier → user = id ∧ ∃ middle, middle.calls = earlier ∧
      Told run (deletionEvent env id correlation) (state.accountEvents.handlersOf .userDeleted)
        (state.noted (.findUserById id)) middle
  /-- A handler that fails ends it, and a later attempt tells all handlers once. -/
  refused : ∀ user before handler later middle failure after,
    Reached env run id correlation state user before handler later middle →
    (run handler (deletionEvent env id correlation)).runOn middle = (.error failure, after) →
    ended = (.error failure, after) ∧ after.users = state.users ∧
      after.accountEvents = state.accountEvents ∧ after.accountEvents.isPending id = false ∧
      ∀ again run' another,
        again.outside.recordFault (.findUserById id :: after.calls) = none →
        (deleteTelling again run' id another).runOn after =
          (tellAndRemove again run' (before ++ handler :: later) user another).runOn
            (after.noted (.findUserById id))
  /-- A remover of files that stops at a content leaves the records of files. -/
  kept : ∀ user before policy later middle failure after,
    Reached env run id correlation state user before (.fileRemover policy) later middle →
    run (.fileRemover policy) = handle env (.fileRemover policy) →
    policy.continueOnItemFailure = false →
    env.outside.recordFault (.findFilesOfEntity Files.userEntity id.text :: middle.calls) = none →
    Files.Stuck env policy (middle.files.ofEntity Files.userEntity id.text)
      (middle.noted (.findFilesOfEntity Files.userEntity id.text)) failure after →
    (run (.fileRemover policy) (deletionEvent env id correlation)).runOn middle =
        (.error (Files.FileFailure.ofBackend failure).failure, after) ∧
      ended = (.error (Files.FileFailure.ofBackend failure).failure, after) ∧
      after.files = middle.files ∧
      ((∀ other ∈ before, ∀ event, (run other event).Keeps .shelved) → after.files = state.files)

section Aside

variable (aside : ∀ handler ∈ state.accountEvents.handlersOf .userDeleted, ∀ event,
    (run handler event).Keeps .aside)
  (idle : state.accountEvents.isPending id = false)
  (bare : ∀ user ∈ state.users.records, user.uncommitted = [])

include idle bare

theorem runOn_found (found : state.users.findById? id = some user)
    (asked : env.outside.recordFault (.findUserById id :: state.calls) = none) :
    (deleteTelling env run id correlation).runOn state =
      (tellAndRemove env run (state.accountEvents.handlersOf .userDeleted) user correlation).runOn
        (state.noted (.findUserById id)) :=
  runOn_deleteTelling found (bare user (List.mem_of_find?_eq_some found)) idle asked

theorem Reached.ended {before later : List AccountHandler} {handler : AccountHandler}
    {middle after : State} {failure : Failure}
    (reached : Reached env run id correlation state user before handler later middle)
    (fails : (run handler (deletionEvent env id correlation)).runOn middle =
      (.error failure, after)) :
    (deleteTelling env run id correlation).runOn state = (.error failure, after) := by
  obtain ⟨found, asked, order, told⟩ := reached
  rw [runOn_found idle bare found asked, order]
  obtain rfl : user.id = id := by simpa using List.find?_some found
  have stopped : ((before ++ handler :: later).forM
      (run · (deletionEvent env user.id correlation))).runOn
        (state.noted (.findUserById user.id)) = (.error failure, after) :=
    told.runOn.trans (runOn_bind_error fails)
  exact runOn_bind_error stopped

include aside

theorem users_removed {other : Uuid} {earlier : List Call}
    (called : .deleteUser other :: earlier <:+
      ((deleteTelling env run id correlation).runOn state).2.calls)
    (since : state.calls <:+ earlier) : other = id ∧ ∃ middle, middle.calls = earlier ∧
      Told run (deletionEvent env id correlation) (state.accountEvents.handlersOf .userDeleted)
        (state.noted (.findUserById id)) middle := by
  -- Wherever the deletion ends before all handlers have taken the event, no user was removed.
  have early {middle : State} {result : Except Failure User}
      (moved : Frame.aside.Allows (state.noted (.findUserById id)) middle)
      (ran : (deleteTelling env run id correlation).runOn state = (result, middle)) : False := by
    rw [ran] at called
    exact not_yet_removed moved since called
  have asking := runOn_userById env state id
  cases asked : env.outside.recordFault (.findUserById id :: state.calls) with
  | some failure =>
    rw [asked] at asking
    exact (early (Frame.aside.stay _) (runOn_bind_error asking)).elim
  | none =>
    rw [asked] at asking
    cases found : state.users.findById? id with
    | none =>
      rw [found] at asking
      exact (early (Frame.aside.stay _) (runOn_bind_ok asking)).elim
    | some user =>
      have same := @runOn_found env run id correlation user state idle bare found asked
      have telling : ((state.accountEvents.handlersOf .userDeleted).forM
          (run · (deletionEvent env id correlation))).Keeps .aside :=
        .forM fun handler member => aside handler member _
      obtain rfl : user.id = id := by simpa using List.find?_some found
      cases told : ((state.accountEvents.handlersOf .userDeleted).forM
          (run · (deletionEvent env user.id correlation))).runOn
            (state.noted (.findUserById user.id)) with
      | mk result middle =>
        have moved := telling.allows told
        cases result with
        | error failure => exact (early moved (same.trans (runOn_bind_error told))).elim
        | ok _ =>
          have last : ((deleteTelling env run user.id correlation).runOn state).2.calls =
              .deleteUser user.id :: middle.calls := by
            rw [same.trans (runOn_bind_ok told), runOn_bind, runOn_deleteRecord]
            cases env.outside.recordFault (.deleteUser user.id :: middle.calls) <;> rfl
          -- The one removal that is asked for follows on the last handler.
          rw [last] at called
          rcases List.suffix_cons_iff.1 called with whole | part
          · obtain ⟨call, rfl⟩ := List.cons.inj whole
            exact ⟨Call.deleteUser.inj call, middle, rfl, told_of_ok told⟩
          · exact absurd part (not_yet_removed moved since)

/-- Handlers that leave the users and what waits of them alone are told of a deletion before it
is done, and one that fails keeps the user.  This holds for the handlers of the service and for
any others. -/
theorem deletion_told_first :
    ToldFirst env run id correlation state ((deleteTelling env run id correlation).runOn state) ∧
      delete env id correlation = deleteTelling env (handle env) id correlation ∧
      ∀ handler event, (handle env handler event).Keeps .aside := by
  refine ⟨⟨?_, ?_, ?_⟩, (deleteTelling_handle env id correlation).symm, aside_handle env⟩
  · intro user earlier called since
    exact users_removed aside idle bare called since
  · intro user before handler later middle failure after reached fails
    have first := reached.told.keeps fun other member =>
      aside other (by rw [reached.order]; exact List.mem_append_left _ member) _
    have last := (aside handler (by rw [reached.order]; simp) _).allows fails
    obtain ⟨users, events, -⟩ := Frame.aside.chain first last
    have users : after.users = state.users := users
    have events : after.accountEvents = state.accountEvents := events
    refine ⟨reached.ended idle bare fails, users, events, events ▸ idle, ?_⟩
    intro again run' another asked
    have later := @runOn_found again run' id another user after (events ▸ idle) (users ▸ bare)
      (users ▸ reached.found) asked
    rw [later, events, reached.order]
  · intro user before policy later middle failure after reached own stops listed stuck
    obtain ⟨removing, files⟩ := stuck.removeOfUser listed stops
    have fails : (run (.fileRemover policy) (deletionEvent env id correlation)).runOn middle =
        (.error (Files.FileFailure.ofBackend failure).failure, after) := by
      rw [own, handle]
      refine runOn_bind_error ?_
      rw [runOn_mapFailure, removing]
      rfl
    refine ⟨fails, reached.ended idle bare fails, files, fun shelved => files.trans ?_⟩
    exact reached.told.keeps fun other member => shelved other member _

end Aside

end Deleting

/-- A user with a file is to be deleted, and three handlers are to be told. -/
def leaving : State :=
  { run (population .plain .nil) (.initial {}) with
    accountEvents := ⟨[(.userDeleted, .recorder "first"), (.userDeleted, .fileRemover ⟨false⟩),
      (.userDeleted, .recorder "last")], []⟩ }

/-- The content of the file cannot be removed: the user, the file and nothing to tell remain. -/
theorem deletion_told_first_leaving :
    let env : Env := ⟨⟨2, 0⟩, ⟨"", ""⟩, .hoarding⟩
    ∃ failure after, (delete env .nil .nil).runOn leaving = (.error failure, after) ∧
      after.users = leaving.users ∧ after.files = leaving.files ∧
      after.accountEvents.isPending .nil = false := by
  intro env
  obtain ⟨⟨-, refused, kept⟩, same, -⟩ :=
    @deletion_told_first env (handle env) .nil .nil leaving
      (fun handler _ event => aside_handle env handler event) rfl (by decide +kernel)
  have known : (leaving.users.findById? .nil).isSome = true := by decide +kernel
  obtain ⟨user, found⟩ := Option.isSome_iff_exists.1 known
  let event := deletionEvent env .nil .nil
  let middle := (leaving.noted (.findUserById .nil)).noted (.handledAccount "first" event)
  have told : Told (handle env) event [.recorder "first"] (leaving.noted (.findUserById .nil))
      middle := .next (runOn_callRecords env _ _) (.nobody _)
  have reached : Reached env (handle env) .nil .nil leaving user [.recorder "first"]
      (.fileRemover ⟨false⟩) [.recorder "last"] middle := ⟨found, rfl, rfl, told⟩
  have shelved : ∀ other ∈ [AccountHandler.recorder "first"], ∀ event,
      (handle env other event).Keeps .shelved := by
    intro other member event
    rw [List.mem_singleton.1 member]
    exact .bind (.noting fun _ => rfl) fun _ => .pure _
  have full : (leaving.files.ofEntity Files.userEntity Uuid.nil.text).isEmpty = false := by
    decide +kernel
  cases listed : leaving.files.ofEntity Files.userEntity Uuid.nil.text with
  | nil =>
    rw [listed] at full
    cases full
  | cons file rest =>
    let listing := middle.noted (.findFilesOfEntity Files.userEntity Uuid.nil.text)
    have stuck : Files.Stuck env ⟨false⟩ (middle.files.ofEntity Files.userEntity Uuid.nil.text)
        listing (.refused file.path.text) (listing.noted (.deleteBlob file.path.text)) := by
      refine ⟨[], file, rest, listing, listed, rfl, ?_⟩
      rw [Files.deleteBlob, Files.runOn_changeBlobs]
      rfl
    obtain ⟨fails, ended, -, files⟩ := kept _ _ _ _ _ _ _ reached rfl rfl rfl stuck
    obtain ⟨-, users, -, idle, -⟩ := refused _ _ _ _ _ _ _ reached fails
    rw [← same] at ended
    exact ⟨_, _, ended, users, files shelved, idle⟩

end Accounts

end Depot
