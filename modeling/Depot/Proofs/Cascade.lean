import Depot.Proofs.Correspondence

/-!
# The deletion of a user

A deletion that ends well takes the user, the records of the user's files and their
contents, and leaves everything else as it was.  Only contents whose removal has failed
are left over, and such a failure does not stop a deletion that is to go on.
-/

set_option autoImplicit false

namespace Depot

open Files (CascadePolicy)

/-- The states that the service comes to from where it is set up, as long as records are
written and contents are stored and removed without faults. -/
def Reachable (policy : CascadePolicy) (state : State) : Prop :=
  ∃ steps, (∀ step ∈ steps, step.env.outside.Reliable "files" ∧
    step.env.outside.Reliable "storage") ∧ (fileIds steps).Nodup ∧
    run steps (.initial policy) = state

section Reachable

variable {policy : CascadePolicy} {state : State}

theorem wired_initial (policy : CascadePolicy) : (State.initial policy).Wired policy :=
  ⟨rfl, by simp [State.initial]⟩

theorem Reachable.facts (reachable : Reachable policy state) :
    (∃ issued, state.Sound issued) ∧ state.holdings.Exact ∧ state.Wired policy := by
  obtain ⟨steps, reliable, distinct, rfl⟩ := reachable
  obtain ⟨sound, exact⟩ := @sound_of_empty (.initial policy) rfl rfl
  have steady : ∀ step ∈ steps, step.Steady (State.initial policy).accountEvents.handlers :=
    fun step member => ⟨(reliable step member).1, .inr (reliable step member).2,
      fun _ _ _ => .inr (reliable step member).2⟩
  obtain ⟨last, exactly⟩ := run_sound steady distinct (fun _ _ => id) sound
  exact ⟨⟨_, last⟩, exactly (fun step member => (reliable step member).2) exact,
    run_wired steps (wired_initial policy)⟩

end Reachable

/-! ## What a deletion does -/

namespace Accounts

open Act

variable {policy : CascadePolicy} {state : State} {id : Uuid}

/-- How a deletion may end: it fails, which takes a policy that stops if users and file
records take every write, or the user is gone with the files, but for the contents whose
removal has failed. -/
def Deletion (env : Env) (policy : CascadePolicy) (id : Uuid) (state : State)
    (ended : Except Failure User × State) : Prop :=
  (∃ failure, ended.1 = .error failure ∧ (env.outside.Reliable "users" →
    env.outside.Reliable "files" → policy.continueOnItemFailure = false)) ∨
  ∃ user, ended.1 = .ok user ∧ ended.2.users = state.users.erase id ∧
    state.holdings.Cleared (·.ownedBy Files.userEntity id.text) (RemovalFailed env state ended.2)
      ended.2.holdings ∧
    ∀ path, RemovalFailed env state ended.2 path → ended.2.content? path = state.content? path ∧
      ∃ file ∈ state.files.records, file.ownedBy Files.userEntity id.text = true ∧
        file.path.text = path

theorem runOn_dispatch_deleted (env : Env) {event : Event}
    (payload : event.payload = .userDeleted id)
    (events : state.accountEvents = ⟨[(.userDeleted, .fileRemover policy)], [(id, [event])]⟩) :
    (dispatch env id).runOn state =
      (((Files.removeOfUser env policy id).mapFailure Files.FileFailure.failure >>= fun _ =>
        pure ()).runOn { state with accountEvents := ⟨[(.userDeleted, .fileRemover policy)], []⟩ }) := by
  have told : (dispatch env id).runOn state =
      (state.accountEvents.deliver Event.topic (handle env) (state.accountEvents.waiting id)).runOn
        { state with accountEvents := state.accountEvents.release id } := rfl
  have topic : event.topic = .userDeleted := by rw [Event.topic, payload]; rfl
  have handled : handle env (.fileRemover policy) event =
      (Files.removeOfUser env policy id).mapFailure Files.FileFailure.failure >>= fun _ =>
        pure () := by
    rw [handle, payload]
  rw [told, events]
  simp only [Dispatcher.waiting, Dispatcher.release, Dispatcher.dropFirst, Dispatcher.deliver,
    Dispatcher.handlersOf, decide_true, List.find?_cons_of_pos, if_true, List.forM_eq_forM,
    List.forM_cons, List.forM_nil, topic, List.filter_cons_of_pos, List.filter_nil, List.map_cons,
    List.map_nil, handled, bind_assoc, pure_bind]

theorem deletion_of_released (env : Env) {released : State}
    (next : released.calls = .findUserById id :: state.calls)
    (users : released.users = state.users) (files : released.files = state.files)
    (contents : released.blobs = state.blobs) (inMemory : state.InMemory) {calls : List Call}
    (backed : state.holdings.Backed calls) (shown : User) :
    Deletion env policy id state
      (((Files.removeOfUser env policy id).mapFailure Files.FileFailure.failure >>= fun _ =>
        deleteRecord env id >>= fun _ => pure shown).runOn released) := by
  have holdings := State.holdings_congr files contents
  have kept : released.InMemory := by
    obtain ⟨blobs, inMemory⟩ := inMemory
    exact ⟨blobs, contents.trans inMemory⟩
  have purge := Files.removeOfUser_purge env kept (holdings ▸ backed) policy id
  have spared := (@Files.keeps_removeOfUser env (fun _ => False) policy id released).2.1
  have since : state.calls <:+ released.calls := next ▸ List.suffix_cons _ _
  have onward := Frame.calls_of_making
    (@Files.keeps_removeOfUser env (fun _ => False) policy id released).1
  cases purged : (Files.removeOfUser env policy id).runOn released with
  | mk result cleared =>
    rw [purged] at purge spared onward
    rcases purge with ⟨failure, failed, stopped⟩ | ⟨count, well, left, failures⟩
    · obtain rfl : result = .error failure := failed
      have ended : ((Files.removeOfUser env policy id).mapFailure
          Files.FileFailure.failure).runOn released = (.error failure.failure, cleared) := by
        rw [runOn_mapFailure, purged]
        rfl
      rw [runOn_bind_error ended]
      exact .inl ⟨_, rfl, fun _ reliable => (stopped reliable).1⟩
    obtain rfl : result = .ok count := well
    rw [runOn_bind_ok (runOn_mapFailure_ok purged), runOn_bind, runOn_deleteRecord]
    cases erasing : env.outside.recordFault (.deleteUser id :: cleared.calls) with
    | some failure =>
      refine .inl ⟨failure, rfl, fun reliable _ => ?_⟩
      rw [reliable.record (.deleteUser id) _ rfl] at erasing
      contradiction
    | none =>
      rw [holdings] at left
      refine .inr ⟨shown, rfl, ?_, ?_, fun path lost => ?_⟩
      · rw [← users, ← spared]
        rfl
      · exact left.mono fun path lost => lost.widen since (List.suffix_cons _ _)
      · have early : RemovalFailed env released cleared path := by
          have shorter : RemovalFailed env state cleared path := lost.before_last rfl (by simp)
          rcases shorter.split (next ▸ onward) with ⟨other, -⟩ | later
          · cases other
          · exact later.widen (by rw [next, State.noted_calls]) List.suffix_rfl
        obtain ⟨same, file, member, owned, text⟩ := failures path early
        have before : released.content? path = state.content? path :=
          congrFun (congrArg Holdings.content holdings) path
        exact ⟨same.trans before, file, files ▸ member, owned, text⟩

/-- A known user is deleted together with the files, or the deletion fails. -/
theorem delete_deletion (env : Env) (wired : state.Wired policy) (inMemory : state.InMemory)
    {calls : List Call} (backed : state.holdings.Backed calls)
    (stored : ∃ user ∈ state.users.records, user.id = id) (correlation : Uuid) :
    Deletion env policy id state ((delete env id correlation).runOn state) := by
  obtain ⟨user, found⟩ : ∃ user, state.users.findById? id = some user := by
    obtain ⟨user, member, same⟩ := stored
    exact Option.isSome_iff_exists.1 (List.find?_isSome.2 ⟨user, member, by simpa using same⟩)
  obtain rfl : user.id = id := by simpa using List.find?_some found
  have detached : user.uncommitted = [] := wired.detached user (List.mem_of_find?_eq_some found)
  rw [delete, runOn_bind, runOn_userById]
  cases finding : env.outside.recordFault (.findUserById user.id :: state.calls) with
  | some failure =>
    refine .inl ⟨failure, rfl, fun users _ => ?_⟩
    rw [users.record (.findUserById user.id) _ rfl] at finding
    contradiction
  | none =>
    have waiting : state.accountEvents.push user.id (user.markDeleted correlation env.now).uncommitted =
        ⟨[(.userDeleted, .fileRemover policy)],
          [(user.id, [Event.of user.id correlation env.now (.userDeleted user.id)])]⟩ := by
      rw [wired.events]
      simp [User.markDeleted, User.note, detached, Dispatcher.push, Dispatcher.append]
    have told := @runOn_dispatch_deleted policy
      { state.noted (.findUserById user.id) with
        accountEvents := state.accountEvents.push user.id
          (user.markDeleted correlation env.now).uncommitted }
      user.id env (Event.of user.id correlation env.now (.userDeleted user.id)) rfl waiting
    simp only [found]
    rw [runOn_bind_ok (runOn_markPending _ _)]
    refine (runOn_bind_congr told _).symm ▸ ?_
    rw [bind_assoc]
    simp only [pure_bind]
    exact @deletion_of_released policy state user.id env
      { state.noted (.findUserById user.id) with
        accountEvents := ⟨[(.userDeleted, .fileRemover policy)], []⟩ }
      rfl rfl rfl rfl inMemory calls backed _

end Accounts

/-! ## What is left of a deleted user -/

/-- A user is gone together with the file records, and every other user, every other record
and the contents of the other records are as they were, in their order. -/
structure Cascaded (before : State) (user : Uuid) (after : State) : Prop where
  gone : ∀ other ∈ after.users.records, other.id ≠ user
  users : after.users.records = before.users.records.filter (·.id ≠ user)
  bare : ∀ file ∈ after.files.records,
    ¬ (file.owner.entityType = "user" ∧ file.owner.entityId = user.text)
  files : after.files.records = before.files.records.filter fun file =>
    ¬ (file.owner.entityType = "user" ∧ file.owner.entityId = user.text)
  contents : ∀ file ∈ after.files.records,
    after.content? file.path.text = before.content? file.path.text

/-- There is a content at a place of a user. -/
def LeftOver (state : State) (user : Uuid) (key : String) : Prop :=
  (state.content? key).isSome ∧ ∃ path, Files.Path.parse key = .ok path ∧
    path.entityType = "user" ∧ path.entityId = user.text

section LeftOver

variable {before after : State} {user : Uuid} {failed : String → Prop} {issued : Uuid → Prop}

theorem ownedBy_user (file : Files.File) (user : Uuid) :
    file.ownedBy Files.userEntity user.text = true ↔
      file.owner.entityType = "user" ∧ file.owner.entityId = user.text := by
  simp [Files.File.ownedBy, Files.userEntity]

theorem cascaded_of_cleared (users : after.users = before.users.erase user)
    (cleared : before.holdings.Cleared (·.ownedBy Files.userEntity user.text) failed
      after.holdings) : Cascaded before user after := by
  have records : after.files.records = before.files.records.filter fun file =>
      ¬ (file.owner.entityType = "user" ∧ file.owner.entityId = user.text) := by
    refine (cleared.records : after.files.records = _).trans (List.filter_congr fun file _ => ?_)
    simp only [← ownedBy_user]
    simp
  obtain ⟨removed, left, theirs, -⟩ := cleared
  refine ⟨?_, by rw [users]; rfl, ?_, records, fun file member => ?_⟩
  · rw [users]
    intro other member
    simpa using (List.mem_filter.1 member).2
  · intro file member owned
    rw [records] at member
    simpa [owned] using (List.mem_filter.1 member).2
  · rw [records] at member
    obtain ⟨present, others⟩ := List.mem_filter.1 member
    have stays : file.path.text ∉ removed := by
      intro lost
      have owned := (ownedBy_user file user).1 (theirs file present lost)
      simp [owned] at others
    have same := congrFun (congrArg Holdings.content left) file.path.text
    simpa [Holdings.leave, State.holdings, stays] using same

theorem leftOver_of_cleared (sound : before.Sound issued) (exact : before.holdings.Exact)
    (cleared : before.holdings.Cleared (·.ownedBy Files.userEntity user.text) failed
      after.holdings) {key : String} (left : LeftOver after user key) : failed key := by
  obtain ⟨removed, same, -, all⟩ := cleared
  obtain ⟨present, path, read, entityType, entityId⟩ := left
  have content : after.content? key = if key ∈ removed then none else before.content? key :=
    congrFun (congrArg Holdings.content same) key
  have stays : key ∉ removed := by
    intro lost
    rw [content, if_pos lost] at present
    contradiction
  rw [content, if_neg stays] at present
  obtain ⟨file, member, rfl⟩ := (exact key).1 present
  rw [Files.Path.parse_text, Except.ok.injEq] at read
  subst read
  obtain ⟨ownerType, ownerId⟩ := sound.owned file member
  have owned := (ownedBy_user file user).2 ⟨ownerType ▸ entityType, ownerId ▸ entityId⟩
  exact (all file member owned).resolve_left stays

theorem leftOver_of_kept (sound : before.Sound issued) (exact : before.holdings.Exact)
    {file : Files.File} (member : file ∈ before.files.records)
    (owned : file.ownedBy Files.userEntity user.text = true)
    (same : after.content? file.path.text = before.content? file.path.text) :
    LeftOver after user file.path.text := by
  obtain ⟨ownerType, ownerId⟩ := (ownedBy_user file user).1 owned
  obtain ⟨entityType, entityId⟩ := sound.owned file member
  refine ⟨?_, file.path, file.path.parse_text, entityType.trans ownerType, entityId.trans ownerId⟩
  rw [same]
  exact (exact _).2 ⟨file, member, rfl⟩

end LeftOver

/-- In every reachable state, a deletion that ends well takes the user and the files away and
leaves all else as it was; the contents left over are those whose removal has failed, none if
none has.  Where it goes on after such failures, it ends well whatever removals fail. -/
theorem delete_cascades {policy : CascadePolicy} {state : State}
    (reachable : Reachable policy state) {user : Accounts.User}
    (stored : user ∈ state.users.records) (env : Env) (correlation : Uuid) :
    let ended := (Accounts.delete env user.id correlation).runOn state
    (∀ deleted, ended.1 = .ok deleted → Cascaded state user.id ended.2 ∧
      ∀ key, LeftOver ended.2 user.id key ↔ RemovalFailed env state ended.2 key) ∧
    (policy.continueOnItemFailure = true → env.outside.Reliable "users" →
      env.outside.Reliable "files" → ∃ deleted, ended.1 = .ok deleted) := by
  obtain ⟨⟨issued, sound⟩, exact, wired⟩ := reachable.facts
  have deletion := Accounts.delete_deletion env wired sound.inMemory sound.backed
    ⟨user, stored, rfl⟩ correlation
  intro ended
  rcases deletion with ⟨failure, failed, stops⟩ | ⟨deleted, well, users, cleared, kept⟩
  · refine ⟨fun deleted well => ?_, fun goesOn users files => ?_⟩
    · rw [show ended.1 = .error failure from failed] at well
      cases well
    · rw [stops users files] at goesOn
      contradiction
  · refine ⟨fun _ _ => ⟨cascaded_of_cleared users cleared, fun key => ⟨fun left => ?_, fun lost => ?_⟩⟩,
      fun _ _ _ => ⟨deleted, well⟩⟩
    · exact leftOver_of_cleared sound exact cleared left
    · obtain ⟨same, file, member, owned, rfl⟩ := kept key lost
      exact leftOver_of_kept sound exact member owned same

/-- A user whose file has been replaced is deleted where no content can be removed. -/
theorem delete_cascades_replacement :
    ∃ user ∈ (run (population .plain .nil) (.initial {})).users.records,
      let state := run (population .plain .nil) (.initial {})
      let ended := (Accounts.delete ⟨⟨2, 0⟩, ⟨"", ""⟩, .hoarding⟩ user.id .nil).runOn state
      (∃ deleted, ended.1 = .ok deleted) ∧ Cascaded state user.id ended.2 ∧
        ∀ key, LeftOver ended.2 user.id key ↔
          RemovalFailed ⟨⟨2, 0⟩, ⟨"", ""⟩, .hoarding⟩ state ended.2 key := by
  have some : 0 < (run (population .plain .nil) (.initial {})).users.records.length := by
    decide +kernel
  obtain ⟨user, stored⟩ := List.exists_mem_of_length_pos some
  have reachable : Reachable {} (run (population .plain .nil) (.initial {})) := by
    refine ⟨_, fun step member => ?_, by decide, rfl⟩
    rw [outside_of_population member]
    exact ⟨Outside.plain_reliable "files", Outside.plain_reliable "storage"⟩
  obtain ⟨cascades, goesOn⟩ := delete_cascades reachable stored ⟨⟨2, 0⟩, ⟨"", ""⟩, .hoarding⟩ .nil
  obtain ⟨deleted, well⟩ := goesOn rfl (Outside.hoarding_reliable (by decide))
    (Outside.hoarding_reliable (by decide))
  exact ⟨user, stored, ⟨deleted, well⟩, cascades deleted well⟩

end Depot
