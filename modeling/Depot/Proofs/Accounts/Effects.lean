import Depot.Proofs.Accounts.UseCases
import Depot.Proofs.Files.Turn

/-!
# What work on accounts leaves alone

Work on accounts changes no file and no content; only the handlers that a deletion is
told to may clear files away.  Stored users carry no events, and the handlers stay the
same.
-/

set_option autoImplicit false

namespace Depot

namespace Dispatcher

variable {T H E : Type} {dispatcher : Dispatcher T H E} {id : Uuid}

/-- Nothing waits but for one record. -/
def WaitsOnly (dispatcher : Dispatcher T H E) (id : Uuid) : Prop :=
  dispatcher.pending = [] ∨ ∃ events, dispatcher.pending = [(id, events)]

theorem WaitsOnly.push (waits : dispatcher.WaitsOnly id) (events : List E) :
    (dispatcher.push id events).WaitsOnly id := by
  unfold Dispatcher.push
  split
  · exact waits
  · rcases waits with nothing | ⟨early, waiting⟩
    · exact .inr ⟨events, by simp [nothing, append]⟩
    · exact .inr ⟨early ++ events, by simp [waiting, append]⟩

theorem WaitsOnly.enqueue {idOf : E → Uuid} {events : List E} (waits : dispatcher.WaitsOnly id)
    (all : ∀ event ∈ events, idOf event = id) :
    (dispatcher.enqueue idOf events).WaitsOnly id := by
  induction events generalizing dispatcher with
  | nil => exact waits
  | cons event rest ih =>
    have pushed : (dispatcher.push (idOf event) [event]).WaitsOnly id := by
      rw [all event (.head _)]
      exact waits.push [event]
    exact ih pushed fun other member => all other (.tail _ member)

theorem WaitsOnly.release (waits : dispatcher.WaitsOnly id) :
    dispatcher.release id = ⟨dispatcher.handlers, []⟩ := by
  rcases waits with nothing | ⟨events, waiting⟩
  · simp [Dispatcher.release, nothing, dropFirst]
  · simp [Dispatcher.release, waiting, dropFirst]

end Dispatcher

/-- Whether the handlers of accounts clear files away completely or not at all: each goes on
after a failed removal, or removals do not fail. -/
def Env.Calm (env : Env) (state : State) : Prop :=
  ∀ topic policy, (topic, .fileRemover policy) ∈ state.accountEvents.handlers →
    policy.continueOnItemFailure = true ∨ env.outside.Reliable "storage"

/-- The accounts between two steps: nothing waits, the deletion of a user is told to the
remover of files alone, and stored users carry no events. -/
structure State.Wired (policy : Files.CascadePolicy) (state : State) : Prop where
  events : state.accountEvents = ⟨[(.userDeleted, .fileRemover policy)], []⟩
  detached : ∀ user ∈ state.users.records, user.uncommitted = []

/-- The handlers and waiting events of accounts stay, and stored users carry no events. -/
def Frame.wiring : Frame where
  Allows before after := after.accountEvents = before.accountEvents ∧
    ((∀ user ∈ before.users.records, user.uncommitted = []) →
      ∀ user ∈ after.users.records, user.uncommitted = [])
  stay _ := ⟨rfl, id⟩
  chain early late := ⟨late.1.trans early.1, late.2 ∘ early.2⟩

/-- What work on accounts does but for telling of events. -/
def Frame.accounting : Frame := sparingFiles.both wiring

namespace Frame

variable {before after : State} {policy : Files.CascadePolicy}

theorem wiring_of_sparing (spared : sparingAccounts.Allows before after) :
    wiring.Allows before after := by
  refine ⟨spared.2, fun detached => ?_⟩
  rw [spared.1]
  exact detached

theorem accounting_of_sparing (spared : sparing.Allows before after) :
    accounting.Allows before after := ⟨spared.1, wiring_of_sparing spared.2⟩

theorem accounting_admits : accounting.AdmitsAccounts where
  note _ call _ spares := ⟨⟨rfl, rfl, [call], rfl, by simpa using spares⟩, rfl, fun detached => detached⟩
  change _ _ detached := ⟨⟨rfl, rfl, [], rfl, by simp⟩, rfl, detached⟩

theorem sparingFiles_admits : sparingFiles.AdmitsAccountEvents where
  tell _ handler event := ⟨rfl, rfl, [.handledAccount handler event], rfl, by simp [Call.stores]⟩
  turn _ _ _ := ⟨rfl, rfl, [], rfl, by simp⟩

theorem sparingAccounts_admits (recorded : Files.File → Prop) :
    sparingAccounts.AdmitsFiles recorded where
  note _ _ _ _ := ⟨rfl, rfl⟩
  insert _ _ _ _ _ := ⟨rfl, rfl⟩
  thin _ _ _ := ⟨rfl, rfl⟩
  change _ _ _ := ⟨rfl, rfl⟩

end Frame

theorem Act.Keeps.accounts {ε α : Type} {act : Act ε α} (kept : act.Keeps .sparing) :
    act.Keeps .accounting := fun state => Frame.accounting_of_sparing (kept state)

namespace Accounts

open Act

variable (env : Env)

theorem keeps_deleteRecord (id : Uuid) : (deleteRecord env id).Keeps .accounting :=
  kept_deleteRecord Frame.accounting_admits id

theorem keeps_register (request : Registration) (id : Uuid) :
    (register env request id).Keeps .accounting :=
  kept_register Frame.accounting_admits request id

theorem keeps_provision (request : Provision) (id : Uuid) (draws : List Nat) :
    (provision env request id draws).Keeps .accounting :=
  kept_provision Frame.accounting_admits request id draws

theorem keeps_change (request : Change) : (change env request).Keeps .accounting :=
  kept_change Frame.accounting_admits request

/-! ## Telling of events -/

theorem keeps_enqueue {ε : Type} (events : List Event) :
    (enqueue events : Act ε Unit).Keeps .sparingFiles :=
  kept_enqueue Frame.sparingFiles_admits events

theorem keeps_markPending {ε : Type} (user : User) :
    (markPending user : Act ε User).Keeps .sparingFiles :=
  kept_markPending Frame.sparingFiles_admits user

theorem runOn_markPending {ε : Type} (user : User) (state : State) :
    (markPending user : Act ε User).runOn state = (.ok user.detached,
      { state with accountEvents := state.accountEvents.push user.id user.uncommitted }) := rfl

theorem accounts_dispatch (id : Uuid) (state : State) :
    ((dispatch env id).runOn state).2.users = state.users ∧
      ((dispatch env id).runOn state).2.accountEvents = state.accountEvents.release id := by
  have delivered : Act.Keeps .sparingAccounts (state.accountEvents.deliver Event.topic (handle env)
      (state.accountEvents.waiting id)) :=
    .deliver fun event _ handler _ => kept_handle (Frame.sparingAccounts_admits fun _ => True)
      (fun _ _ _ => ⟨rfl, rfl⟩) handler event
  exact delivered { state with accountEvents := state.accountEvents.release id }

variable {env} in
theorem clears_handle (reliable : env.outside.Reliable "files") (handler : AccountHandler)
    (calm : ∀ policy, handler = .fileRemover policy →
      policy.continueOnItemFailure = true ∨ env.outside.Reliable "storage") (event : Event) :
    (handle env handler event).Keeps (.clearing env) := by
  cases handler with
  | recorder name =>
    exact .bind (.noting fun state => Frame.clearing_of_sparing
      (Frame.sparingFiles_admits.tell state name event)) fun _ => .pure _
  | refuser failure => exact .throw _
  | fileRemover policy =>
    rw [handle]
    cases event.payload with
    | userCreated user name email => exact .pure _
    | userDeleted user =>
      exact .bind (.mapFailure _ (Files.clears_removeOfUser reliable policy user (calm policy rfl)))
        fun _ => .pure _

end Accounts

/-- The handlers stay, and if they are calm, files are at most cleared away. -/
def Frame.calmly (env : Env) : Frame where
  Allows before after := after.accountEvents.handlers = before.accountEvents.handlers ∧
    (env.Calm before → (clearing env).Allows before after)
  stay state := ⟨rfl, fun _ => (clearing env).stay state⟩
  chain := by
    rintro first second third ⟨same, early⟩ ⟨same', late⟩
    refine ⟨same'.trans same, fun calm => (clearing env).chain (early calm) (late ?_)⟩
    rw [Env.Calm, same]
    exact calm

theorem Act.Keeps.calms {ε α : Type} {act : Act ε α} {env : Env}
    (kept : act.Keeps .accounting) : act.Keeps (.calmly env) := fun state =>
  ⟨by rw [(kept state).2.1], fun _ => Frame.clearing_of_sparing (kept state).1⟩

theorem Act.Keeps.calmly {ε α : Type} {act : Act ε α} {env : Env} {makes : Uuid → Prop}
    (clears : act.Keeps (.clearing env)) (kept : act.Keeps (.filing makes)) :
    act.Keeps (.calmly env) := fun state =>
  ⟨by rw [(kept state).2.2], fun _ => clears state⟩

namespace Files

variable {env : Env} (reliable : env.outside.Reliable "files")

include reliable

theorem calms_remove (id : Uuid) : (remove env id).Keeps (.calmly env) :=
  (clears_remove reliable id).calmly (@keeps_remove env (fun _ => False) id)

theorem calms_removeOfOwner (owner : Owner) (correlation : Uuid) :
    (removeOfOwner env owner correlation).Keeps (.calmly env) :=
  (clears_removeOfOwner reliable owner correlation).calmly
    (@keeps_removeOfOwner env (fun _ => False) owner correlation)

end Files

namespace Accounts

open Act

variable {env : Env}

theorem calms_dispatch (reliable : env.outside.Reliable "files") (id : Uuid) :
    (dispatch env id).Keeps (.calmly env) := by
  intro state
  refine ⟨by rw [(accounts_dispatch env id state).2]; rfl, fun calm => ?_⟩
  have released : (Frame.clearing env).Allows state
      { state with accountEvents := state.accountEvents.release id } :=
    Frame.clearing_of_sparing ⟨rfl, rfl, [], rfl, by simp⟩
  have delivered : Act.Keeps (.clearing env) (state.accountEvents.deliver Event.topic (handle env)
      (state.accountEvents.waiting id)) := by
    refine .deliver fun event _ handler registered => clears_handle reliable handler ?_ event
    rintro policy rfl
    obtain ⟨⟨topic, remover⟩, listed, rfl⟩ := List.mem_map.1 registered
    exact calm topic policy (List.mem_filter.1 listed).1
  exact (Frame.clearing env).chain released (delivered _)

theorem calms_enqueue {ε : Type} (events : List Event) :
    (enqueue events : Act ε Unit).Keeps (.calmly env) := fun state =>
  ⟨Dispatcher.enqueue_handlers _ _ _, fun _ =>
    Frame.clearing_of_sparing (@keeps_enqueue ε events state)⟩

theorem calms_markPending {ε : Type} (user : User) :
    (markPending user : Act ε User).Keeps (.calmly env) := fun state =>
  ⟨Dispatcher.push_handlers _ _ _, fun _ =>
    Frame.clearing_of_sparing (@keeps_markPending ε user state)⟩

theorem calms_delete (reliable : env.outside.Reliable "files") (id correlation : Uuid) :
    (delete env id correlation).Keeps (.calmly env) := by
  refine .bind (keeps_userById env id).spares.accounts.calms fun found => ?_
  cases found with
  | none => exact .throw _
  | some user =>
    exact .bind (calms_markPending _) fun _ => .bind (calms_dispatch reliable _) fun _ =>
      .bind (keeps_deleteRecord env _).calms fun _ => .pure _

/-! ## New accounts -/

section Added

variable {state after : State} {user : User} {events : List Event}

def User.created (user : User) (correlation : Uuid) (time : Instant) : Event :=
  .of user.id correlation time (.userCreated user.id user.username.text user.email)

/-- A user has been added under a new identifier, and the events tell of that alone. -/
structure Added (env : Env) (correlation : Uuid) (users later : Users) (user : User)
    (events : List Event) : Prop where
  newId : ∀ other ∈ users.records, other.id ≠ user.id
  later : later = ⟨users.records ++ [user]⟩
  events : events = [user.created correlation env.now]

theorem Added.own {correlation : Uuid} {users later : Users}
    (added : Added env correlation users later user events) :
    ∀ event ∈ events, event.record = user.id := by
  rw [added.events]
  intro event member
  rw [List.mem_singleton.1 member]
  rfl

theorem Recorded.added {users : Users} {id : Uuid} {name : Username} {email : String}
    {hash : Option String} {roles : List Role} {correlation : Uuid}
    (recorded : Recorded users (User.register id name email hash roles correlation env.now)
      (user, events) after) : Added env correlation users after.users user events := by
  obtain ⟨newId, value, later⟩ := recorded
  obtain ⟨rfl, rfl⟩ := Prod.mk.inj value
  exact ⟨newId, later, rfl⟩

theorem register_ok {request : Registration} {id : Uuid}
    (ran : (register env request id).runOn state = (.ok (user, events), after)) :
    Added env request.correlation state.users after.users user events := by
  obtain ⟨name, hash, registered⟩ := (register_told env request id state).of_ok ran
  exact registered.recorded.added

theorem provision_ok {request : Provision} {id : Uuid} {draws : List Nat}
    (ran : (provision env request id draws).runOn state = (.ok (user, events), after)) :
    (events = [] ∧ after.users = state.users) ∨
      Added env request.correlation state.users after.users user events := by
  cases (provision_told env request id draws state).of_ok ran with
  | found isEmail known same => exact .inl ⟨rfl, same⟩
  | made isEmail newEmail named recorded => exact .inr recorded.added

end Added

end Accounts

/-! ## Turns -/

/-- An action that makes one turn, as long as the handlers are calm. -/
def Act.Turns {ε α : Type} (env : Env) (drawn : Uuid → Prop) (act : Act ε α) : Prop :=
  ∀ state, (act.runOn state).2.accountEvents.handlers = state.accountEvents.handlers ∧
    (env.Calm state → (Frame.making drawn).Allows state (act.runOn state).2 ∧
      (state.InMemory → ∀ calls, state.holdings.Backed calls →
        (∀ other ∈ state.files.records, ¬ drawn other.id) →
          Turn env drawn state (act.runOn state).2))

namespace Act.Turns

variable {ε ε' α β : Type} {env : Env} {drawn : Uuid → Prop} {act : Act ε α}
  {next : α → Act ε β}

theorem of_calm (kept : act.Keeps (.calmly env)) : act.Turns env drawn := fun state =>
  ⟨(kept state).1, fun calm => ⟨Frame.making_mono (fun _ never => never.elim)
    ((kept state).2 calm).1, fun inMemory _ backed _ =>
      Frame.turn_of_clearing ((kept state).2 calm) inMemory backed⟩⟩

theorem mapFailure (f : ε → ε') (turns : act.Turns env drawn) :
    (act.mapFailure f).Turns env drawn := turns

theorem after (first : act.Keeps .accounting) (second : ∀ value, (next value).Turns env drawn) :
    (act >>= next).Turns env drawn := by
  intro state
  have moved := first state
  rw [runOn_bind]
  cases ran : act.runOn state with
  | mk result middle =>
    rw [ran] at moved
    cases result with
    | error failure =>
      exact ⟨by rw [moved.2.1], fun _ => ⟨Frame.making_of_sparingFiles moved.1,
        fun _ _ _ _ => .nothing (Frame.holdings_of_sparingFiles moved.1)⟩⟩
    | ok value =>
      obtain ⟨handlers, turns⟩ := second value middle
      have calm (before : env.Calm state) : env.Calm middle := by
        rw [Env.Calm, moved.2.1]
        exact before
      refine ⟨by rw [handlers, moved.2.1], fun before => ⟨(Frame.making drawn).chain
        (Frame.making_of_sparingFiles moved.1) (turns (calm before)).1,
          fun inMemory calls backed fresh => ?_⟩⟩
      have kept := (Frame.making_of_sparingFiles moved.1 : (Frame.making drawn).Allows _ _).1
      refine ((turns (calm before)).2 (kept inMemory) calls ?_ ?_).widen moved.1
        (Frame.sparingFiles.stay _)
      · rw [Frame.holdings_of_sparingFiles moved.1]
        exact backed
      · rw [moved.1.1]
        exact fresh

theorem before (first : act.Turns env drawn) (second : ∀ value, (next value).Keeps .sparing) :
    (act >>= next).Turns env drawn := by
  intro state
  obtain ⟨handlers, turns⟩ := first state
  rw [runOn_bind]
  cases ran : act.runOn state with
  | mk result middle =>
    rw [ran] at handlers turns
    cases result with
    | error failure => exact ⟨handlers, turns⟩
    | ok value =>
      have moved := second value middle
      refine ⟨by rw [moved.2.2, handlers], fun calm => ⟨(Frame.making drawn).chain
        (turns calm).1 (Frame.making_of_sparingFiles moved.1),
          fun inMemory calls backed fresh => ?_⟩⟩
      exact ((turns calm).2 inMemory calls backed fresh).widen (Frame.sparingFiles.stay _) moved.1

end Act.Turns

theorem Files.turns_upload {env : Env} (reliable : env.outside.Reliable "files")
    (strategy : ReplaceStrategy) (request : UploadRequest) {drawn : Uuid → Prop} {id : Uuid}
    (new : drawn id) : (upload env strategy request id).Turns env drawn := fun state =>
  have kept := keeps_upload env strategy request new state
  ⟨by rw [kept.2.2], fun _ => ⟨kept.1, fun inMemory _ backed fresh =>
    turn_upload reliable inMemory backed new fresh strategy request⟩⟩

end Depot
