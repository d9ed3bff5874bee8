import Depot.Proofs.Accounts.Keys
import Depot.Proofs.Events.Delivery
import Depot.Proofs.Files.Current

/-!
# Telling of what has been handed over

Where nothing else waits, what a request hands over is just what a listening recorder is
told by the delivery that follows.  So each kind of request that makes an event ends in
one of two ways: nothing is done and nothing told, or what is done is told.
-/

set_option autoImplicit false

namespace Depot

/-- A recorder is registered once for every topic, and no handler refuses events. -/
structure State.Listens (state : State) (name : String) : Prop where
  accounts : ∀ topic, (state.accountEvents.handlersOf topic).count (.recorder name) = 1
  files : ∀ topic, (state.fileEvents.handlersOf topic).count (.recorder name) = 1
  accountsTaken : ∀ entry ∈ state.accountEvents.handlers, ∀ failure, entry.2 ≠ .refuser failure
  filesTaken : ∀ entry ∈ state.fileEvents.handlers, ∀ failure, entry.2 ≠ .refuser failure

/-- A state between requests: contents are in memory, stored records carry no events, nothing
waits, and a recorder listens. -/
structure State.Ready (state : State) (name : String) : Prop where
  inMemory : state.InMemory
  detached : state.Detached
  listens : state.Listens name
  noAccount : state.accountEvents.pending = []
  noFile : state.fileEvents.pending = []

namespace Dispatcher

variable {T H E : Type} {dispatcher : Dispatcher T H E}

theorem waiting_of_empty (nothing : dispatcher.pending = []) (id : Uuid) :
    dispatcher.waiting id = [] := by
  rw [waiting, nothing]
  rfl

end Dispatcher

theorem State.Listens.of_retaining {before after : State} {name : String}
    (listens : before.Listens name) (kept : Frame.retaining.Allows before after) :
    after.Listens name := by
  have accounts := kept.accountHandlers
  have files := kept.fileHandlers
  constructor
  · intro topic
    rw [Dispatcher.handlersOf_congr accounts]
    exact listens.accounts topic
  · intro topic
    rw [Dispatcher.handlersOf_congr files]
    exact listens.files topic
  · rw [accounts]
    exact listens.accountsTaken
  · rw [files]
    exact listens.filesTaken

/-! ## Deliveries -/

section Telling

variable {env : Env} (untroubled : env.Untroubled) {name : String} {state : State}

include untroubled

theorem Accounts.told (inMemory : state.InMemory) (listens : state.Listens name) {id : Uuid}
    {events : List Accounts.Event} (waits : state.accountEvents.waiting id = events) :
    ∃ after, (dispatch env id).runOn state = (.ok (), after) ∧ after.users = state.users ∧
      after.accountLog name = state.accountLog name ++ events := by
  obtain ⟨after, ran, logged⟩ := dispatch_ok untroubled name inMemory listens.accountsTaken id
  have kept := (accounts_dispatch env id state).1
  rw [ran] at kept
  rw [Dispatcher.plan_heard listens.accounts, waits] at logged
  exact ⟨after, ran, kept, logged⟩

omit untroubled in
theorem Files.told (heard : env.outside.Heard) (listens : state.Listens name) {id : Uuid}
    {events : List Files.Event} (waits : state.fileEvents.waiting id = events) :
    ∃ after, (dispatch env id).runOn state = (.ok (), after) ∧ after.files = state.files ∧
      after.fileLog name = state.fileLog name ++ events := by
  obtain ⟨after, ran, logged⟩ := dispatch_ok heard name listens.filesTaken id
  have kept := ((keeps_dispatch env id).allows ran).1.1
  rw [Dispatcher.plan_heard listens.files, waits] at logged
  exact ⟨after, ran, kept, logged⟩

end Telling

/-! ## Requests on accounts -/

namespace Accounts

open Act

variable {env : Env} {name : String} {state : State} {id correlation : Uuid}

/-- The deletion of a user that is found is told, and then the user goes. -/
theorem delete_told (untroubled : env.Untroubled) (users : env.outside.Reliable "users")
    (ready : state.Ready name) {user : User} (found : state.users.findById? id = some user) :
    ∃ shown after, (delete env id correlation).runOn state = (.ok shown, after) ∧
      after.users = state.users.erase id ∧
      after.accountLog name = state.accountLog name ++
        [.of id correlation env.now (.userDeleted id)] := by
  obtain rfl : user.id = id := by simpa using List.find?_some found
  have bare := ready.detached.users user (List.mem_of_find?_eq_some found)
  let asked := state.noted (.findUserById user.id)
  let marked := user.markDeleted correlation env.now
  let waiting : State :=
    { asked with accountEvents := state.accountEvents.push user.id marked.uncommitted }
  have heard : waiting.Listens name :=
    ready.listens.of_retaining (Frame.retaining.chain
      (Frame.retaining_accounts.note state (.findUserById user.id) rfl rfl)
      (Frame.retaining_accountEvents.turn asked _ (Dispatcher.push_handlers _ _ _)))
  have waits : waiting.accountEvents.waiting user.id =
      [.of user.id correlation env.now (.userDeleted user.id)] := by
    rw [Dispatcher.waiting_push, Dispatcher.waiting_of_empty ready.noAccount, if_pos rfl]
    simp [marked, User.markDeleted, User.note, bare]
  have before : waiting.accountLog name = state.accountLog name :=
    (@Frame.quietAccounts_noted state (.findUserById user.id) fun _ => rfl).2 name
  have inMemory : waiting.InMemory := ready.inMemory
  obtain ⟨middle, dispatched, kept, logged⟩ := told untroubled inMemory heard waits
  let after : State :=
    { middle.noted (.deleteUser user.id) with users := middle.users.erase user.id }
  have erased : (deleteRecord env user.id).runOn middle =
      (.ok (middle.users.findById? user.id).isSome, after) := by
    rw [runOn_deleteRecord, users.record (.deleteUser user.id) _ rfl]
  have answer := @userById_ok env users state user.id
  rw [found] at answer
  refine ⟨marked.detached, after, ?_, ?_, ?_⟩
  · rw [delete, runOn_bind_ok answer]
    exact (runOn_bind_ok (runOn_markPending marked asked)).trans
      ((runOn_bind_ok dispatched).trans (runOn_bind_ok erased))
  · exact congrArg (Users.erase · user.id) kept
  · have last := (@Frame.quietAccounts_noted middle (.deleteUser user.id) fun _ => rfl).2 name
    rw [← before, ← logged, ← last]
    rfl

end Accounts

namespace Service

open Act

variable {env : Env} {app : App} {drawn : Drawn} {name : String} {state : State}

theorem announceUser_told (untroubled : env.Untroubled) (inMemory : state.InMemory)
    (listens : state.Listens name) (nothing : state.accountEvents.pending = [])
    {user : Accounts.User} {events : List Accounts.Event}
    (own : ∀ event ∈ events, event.record = user.id) :
    ∃ after, (announceUser env user events).runOn state = (.ok (), after) ∧
      after.users = state.users ∧ after.accountLog name = state.accountLog name ++ events := by
  let waiting : State :=
    { state with accountEvents := state.accountEvents.enqueue Accounts.Event.record events }
  have waits : waiting.accountEvents.waiting user.id = events := by
    rw [Dispatcher.waiting_enqueue, Dispatcher.waiting_of_empty nothing, List.nil_append,
      List.filter_eq_self]
    intro event member
    simpa using own event member
  have heard : waiting.Listens name := listens.of_retaining
    (Frame.retaining_accountEvents.turn state _ (Dispatcher.enqueue_handlers _ _ _))
  have kept : waiting.InMemory := inMemory
  obtain ⟨after, ran, users, logged⟩ := Accounts.told untroubled kept heard waits
  refine ⟨after, ?_, users, logged⟩
  have enqueued : (Accounts.enqueue events : Act Refusal Unit).runOn state = (.ok (), waiting) := rfl
  rw [announceUser, runOn_bind_ok enqueued]
  exact runOn_mapFailure_ok ran

/-- How a request for an account may end: no user is added and nothing told, or the user that is
added is told of. -/
def Enrols (env : Env) (drawn : Drawn) (name : String) (before after : State) : Prop :=
  (after.users = before.users ∧ after.accountLog name = before.accountLog name) ∨
    ∃ user : Accounts.User, (∀ other ∈ before.users.records, other.id ≠ user.id) ∧
      after.users = ⟨before.users.records ++ [user]⟩ ∧
      after.accountLog name = before.accountLog name ++ [user.created drawn.correlation env.now]

theorem enrols_announced (untroubled : env.Untroubled) (ready : state.Ready name)
    {enrol : Act Failure (Accounts.User × List Accounts.Event)}
    (quiet : enrol.Keeps .quietAccounts) (retains : enrol.Keeps .retaining)
    (refused : ∀ failure after, enrol.runOn state = (.error failure, after) →
      after.users = state.users)
    (enrolled : ∀ user events after, enrol.runOn state = (.ok (user, events), after) →
      (events = [] ∧ after.users = state.users) ∨
        Accounts.Added env drawn.correlation state.users after.users user events)
    (reply : Accounts.User → List Accounts.Event → Reply) :
    Enrols env drawn name state ((do
      let (user, events) ← onAccounts enrol
      announceUser env user events
      return reply user events).runOn state).2 := by
  cases ran : enrol.runOn state with
  | mk result middle =>
    obtain ⟨events, logged⟩ := quiet.allows ran
    have kept := retains.allows ran
    cases result with
    | error failure =>
      have failed : (onAccounts enrol).runOn state = (.error (.accounts failure), middle) := by
        rw [onAccounts, runOn_mapFailure, ran]
        rfl
      rw [runOn_bind_error failed]
      exact .inl ⟨refused failure middle ran, logged name⟩
    | ok given =>
      obtain ⟨user, more⟩ := given
      have outcome := enrolled user more middle ran
      have own : ∀ event ∈ more, event.record = user.id := by
        rcases outcome with ⟨rfl, -⟩ | added
        · simp
        · exact added.own
      have nothing : middle.accountEvents.pending = [] :=
        (congrArg Dispatcher.pending events).trans ready.noAccount
      -- A user that was there already comes with no events, so that nothing is told.
      obtain ⟨after, told, users, heard⟩ := announceUser_told untroubled (kept.inMemory ready.inMemory)
        (ready.listens.of_retaining kept) nothing own
      have given : (onAccounts enrol).runOn state = (.ok (user, more), middle) :=
        runOn_mapFailure_ok ran
      rw [runOn_bind_ok given]
      dsimp only
      rw [runOn_bind_ok told]
      rw [logged] at heard
      rcases outcome with ⟨rfl, same⟩ | ⟨new, later, rfl⟩
      · exact .inl ⟨users.trans same, heard.trans (List.append_nil _)⟩
      · exact .inr ⟨user, new, users.trans later, heard⟩

theorem enrols_createUser (untroubled : env.Untroubled) (ready : state.Ready name)
    (request : Request) :
    Enrols env drawn name state ((createUser env app drawn request).runOn state).2 := by
  rw [createUser, runOn_bind, runOn_ofExcept]
  cases readBody app.maxBodyBytes registrationReader request with
  | error refusal => exact .inl ⟨rfl, rfl⟩
  | ok body =>
    dsimp only
    let given : Accounts.Registration := { body with correlation := drawn.correlation }
    refine enrols_announced untroubled ready
      (Accounts.kept_register Frame.quietAccounts_accounts given drawn.id)
      (Accounts.kept_register Frame.retaining_accounts given drawn.id) (fun failure after ran => ?_)
      (fun _ _ _ ran => .inr (Accounts.register_ok ran)) fun user _ => .json 201 user.view
    exact (Accounts.register_told env given drawn.id state).of_error ran

theorem enrols_provisionUser (untroubled : env.Untroubled) (ready : state.Ready name)
    (request : Request) :
    Enrols env drawn name state ((provisionUser env app drawn request).runOn state).2 := by
  rw [provisionUser, runOn_bind, runOn_ofExcept]
  cases readBody app.maxBodyBytes provisionReader request with
  | error refusal => exact .inl ⟨rfl, rfl⟩
  | ok body =>
    dsimp only
    let given : Accounts.Provision := { body with correlation := drawn.correlation }
    refine enrols_announced untroubled ready
      (Accounts.kept_provision Frame.quietAccounts_accounts given drawn.id drawn.ending)
      (Accounts.kept_provision Frame.retaining_accounts given drawn.id drawn.ending)
      (fun failure after ran => ?_) (fun _ _ _ ran => Accounts.provision_ok ran)
      fun user events => .json (if events.isEmpty then 200 else 201) user.view
    exact (Accounts.provision_told env given drawn.id drawn.ending state).of_error ran

/-! ## Requests on files -/

theorem announceFile_told (heard : env.outside.Heard) (listens : state.Listens name)
    (nothing : state.fileEvents.pending = []) {file : Files.File} {events : List Files.Event}
    (own : ∀ event ∈ events, event.record = file.id) :
    ∃ after, (announceFile env file events).runOn state = (.ok (), after) ∧
      after.files = state.files ∧ after.fileLog name = state.fileLog name ++ events := by
  let waiting : State :=
    { state with fileEvents := state.fileEvents.enqueue Files.Event.record events }
  have waits : waiting.fileEvents.waiting file.id = events := by
    rw [Dispatcher.waiting_enqueue, Dispatcher.waiting_of_empty nothing, List.nil_append,
      List.filter_eq_self]
    intro event member
    simpa using own event member
  have listening : waiting.Listens name := listens.of_retaining
    (Frame.retaining_fileEvents.turn state _ (Dispatcher.enqueue_handlers _ _ _))
  obtain ⟨after, ran, files, logged⟩ := Files.told heard listening waits
  refine ⟨after, ?_, files, logged⟩
  have enqueued : (Files.enqueue events : Act Refusal Unit).runOn state = (.ok (), waiting) := rfl
  rw [announceFile, runOn_bind_ok enqueued]
  exact runOn_mapFailure_ok ran

/-- How a request for an upload may end: it is refused and nothing is told, or the file that is
recorded under the drawn identifier is told of. -/
def TakesIn (env : Env) (drawn : Drawn) (name : String) (before : State)
    (ended : Except Refusal Reply × State) : Prop :=
  ((∃ refusal, ended.1 = .error refusal) ∧ ended.2.fileLog name = before.fileLog name) ∨
    (∃ reply, ended.1 = .ok reply) ∧ ∃ file, ended.2.files.findById? drawn.id = some file ∧
      ended.2.fileLog name = before.fileLog name ++ [file.uploaded drawn.correlation env.now]

theorem takesIn_announced (untroubled : env.Untroubled) (ready : state.Ready name)
    (strategy : Files.ReplaceStrategy) {request : Files.UploadRequest}
    (correlation : request.correlation = drawn.correlation) :
    TakesIn env drawn name state ((do
      let (file, events) ← onFiles (Files.upload env strategy request drawn.id)
      announceFile env file events
      return Reply.json 201 (viewFile env file)).runOn state) := by
  cases ran : (Files.upload env strategy request drawn.id).runOn state with
  | mk result middle =>
    obtain ⟨events, logged⟩ :=
      (Files.kept_upload Frame.quietFiles_files strategy request fun _ => trivial).allows ran
    have kept := (Files.kept_upload (@Frame.retaining_files fun _ => True) strategy request
      fun _ => trivial).allows ran
    cases result with
    | error failure =>
      have failed : (onFiles (Files.upload env strategy request drawn.id)).runOn state =
          (.error (.files failure), middle) := by
        rw [onFiles, runOn_mapFailure, ran]
        rfl
      rw [runOn_bind_error failed]
      exact .inl ⟨⟨_, rfl⟩, logged name⟩
    | ok given =>
      obtain ⟨file, more⟩ := given
      obtain ⟨drawnId, rfl⟩ := Files.upload_events ran
      rcases Files.upload_cases env strategy request drawn.id state ran with
        ⟨⟨_, bad⟩, -⟩ | ⟨_, _, others, well, -, -, records, keeps⟩
      · cases bad
      obtain ⟨rfl, -⟩ := Prod.mk.inj (Except.ok.inj well)
      have own : ∀ event ∈ [file.uploaded request.correlation env.now], event.record = file.id := by
        intro event member
        rw [List.mem_singleton.1 member]
        rfl
      have nothing : middle.fileEvents.pending = [] :=
        (congrArg Dispatcher.pending events).trans ready.noFile
      obtain ⟨after, told, files, heard⟩ := announceFile_told untroubled.heard
        (ready.listens.of_retaining kept) nothing own
      have stored : (onFiles (Files.upload env strategy request drawn.id)).runOn state =
          (.ok (file, [file.uploaded request.correlation env.now]), middle) :=
        runOn_mapFailure_ok ran
      rw [runOn_bind_ok stored]
      dsimp only
      rw [runOn_bind_ok told]
      refine .inr ⟨⟨_, rfl⟩, file, ?_, ?_⟩
      -- The drawn identifier is new, so the search for it ends at the record that joined last.
      · have new : ∀ other ∈ others, ¬ decide (other.id = drawn.id) = true := by
          intro other member
          simpa [← drawnId] using keeps.newId other member
        rw [runOn_pure, files, Files.Catalogue.findById?, records, List.find?_append,
          List.find?_eq_none.2 new, Option.none_or, List.find?_cons_of_pos (by simpa using drawnId)]
      · rw [runOn_pure, heard, logged, correlation]

theorem takesIn_uploadFile (untroubled : env.Untroubled) (ready : state.Ready name)
    (owner : Files.Owner) (query : Query) (bytes : ByteArray) :
    TakesIn env drawn name state ((uploadFile env app drawn owner query bytes).runOn state) := by
  have looks := Files.kept_looking Frame.quietFiles_files
    (keeps_queryPart query UploadQuery.ofQuery?)
  refine bind_cases (fun refusal middle ran => ?_) fun fields middle ran => ?_
  · exact .inl ⟨⟨_, rfl⟩, (looks.allows ran).2 name⟩
  obtain ⟨-, rfl⟩ := need_ok ran
  split
  · exact .inl ⟨⟨_, rfl⟩, rfl⟩
  · exact takesIn_announced untroubled ready _ rfl

/-- How a request to clear the slot of an owner may end: there is no file and nothing is told, or
the file that was found has gone and is told of. -/
def Clears (env : Env) (drawn : Drawn) (name : String) (owner : Files.Owner)
    (before after : State) : Prop :=
  (before.files.current? owner = none ∧ after.fileLog name = before.fileLog name) ∨
    ∃ file, before.files.current? owner = some file ∧ after.files = before.files.erase file.id ∧
      after.fileLog name = before.fileLog name ++
        [.of file.id drawn.correlation env.now (.deleted file.id file.owner file.path.text)]

theorem clears_deleteOwnerFile (untroubled : env.Untroubled) (ready : state.Ready name)
    (owner : Files.Owner) :
    Clears env drawn name owner state ((deleteOwnerFile env drawn owner).runOn state).2 := by
  cases found : state.files.current? owner with
  | none =>
    have located : (Files.locate env (.byOwner owner)).runOn state =
        (.error (.notFound owner.text), state.noted (.findCurrentFile owner)) :=
      Files.locate_missing untroubled.files found
    have refused : (onFiles (Files.removeOfOwner env owner drawn.correlation)).runOn state =
        (.error (.files (.notFound owner.text)), state.noted (.findCurrentFile owner)) := by
      rw [onFiles, runOn_mapFailure, Files.removeOfOwner, runOn_bind_error located]
      rfl
    rw [deleteOwnerFile, runOn_bind_error refused]
    exact .inl ⟨found, (Frame.quietFiles_noted fun _ => rfl).2 name⟩
  | some file =>
    have bare := ready.detached.files file (Files.Catalogue.mem_of_current? found).1
    obtain ⟨after, ran, emptied, logged⟩ := Files.removeOfOwner_ok untroubled.heard name
      untroubled.files untroubled.storage ready.inMemory ready.listens.filesTaken found
      drawn.correlation
    have removed : (onFiles (Files.removeOfOwner env owner drawn.correlation)).runOn state =
        (.ok file.detached, after) := runOn_mapFailure_ok ran
    rw [deleteOwnerFile, runOn_bind_ok removed]
    refine .inr ⟨file, found, emptied.files, ?_⟩
    rw [runOn_pure, logged, Dispatcher.plan_heard ready.listens.files,
      Dispatcher.waiting_of_empty ready.noFile]
    simp [Files.File.markDeleted, Files.File.note, bare]

end Service

end Depot
