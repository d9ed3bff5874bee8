import Depot.Proofs.Events.Conservation
import Depot.Proofs.Events.Logs
import Depot.Proofs.Files.Emptying

/-!
# Deliveries that no handler refuses

A delivery to handlers that take every event ends well and follows its plan: the log of a
recorder grows by each event as often as the recorder is registered for it.
-/

set_option autoImplicit false

namespace Depot

/-- Nothing keeps a recorder from noting what it is told. -/
def Outside.Heard (outside : Outside) : Prop :=
  ∀ call earlier, call.service? = none → outside.recordFault (call :: earlier) = none

/-- Neither store of files fails, and recorders note what they are told. -/
structure Env.Untroubled (env : Env) : Prop where
  files : env.outside.Reliable "files"
  storage : env.outside.Reliable "storage"
  heard : env.outside.Heard

/-! ## Delivery by plan -/

theorem Act.forM_logs {ε β L : Type} {items : List β} {step : β → Act ε PUnit}
    {Holds : State → Prop} {log : State → List L} {gain : β → List L}
    (each : ∀ item ∈ items, ∀ state, Holds state → ∃ after,
      (step item).runOn state = (.ok ⟨⟩, after) ∧ Holds after ∧ log after = log state ++ gain item)
    {state : State} (start : Holds state) :
    ∃ after, (items.forM step).runOn state = (.ok ⟨⟩, after) ∧ Holds after ∧
      log after = log state ++ items.flatMap gain := by
  refine @forM_ok _ _ items step
    (fun done later => Holds later ∧ log later = log state ++ done.flatMap gain)
    (fun done item member middle held => ?_) state [] ⟨start, by simp⟩
  obtain ⟨after, ran, holds, more⟩ := each item member middle held.1
  refine ⟨after, ran, holds, ?_⟩
  rw [more, held.2, List.append_assoc, List.flatMap_append, List.flatMap_singleton]

namespace Dispatcher

variable {ε T H E L : Type} [DecidableEq T] {topicOf : E → T} {run : H → E → Act ε Unit}
  {dispatcher : Dispatcher T H E}

theorem mem_handlers_of_handlersOf {topic : T} {handler : H}
    (registered : handler ∈ dispatcher.handlersOf topic) :
    ∃ entry ∈ dispatcher.handlers, entry.2 = handler := by
  obtain ⟨entry, member, same⟩ := List.mem_map.1 registered
  exact ⟨entry, (List.mem_filter.1 member).1, same⟩

theorem flatMap_plan (gain : H → E → List L) (events : List E) :
    ((dispatcher.plan topicOf events).flatMap fun told => gain told.1 told.2) =
      events.flatMap fun event => (dispatcher.handlersOf (topicOf event)).flatMap (gain · event) := by
  rw [plan, List.flatMap_assoc]
  simp only [List.flatMap_map]

theorem deliver_ok {Holds : State → Prop} {log : State → List L} {gain : H → E → List L}
    (each : ∀ entry ∈ dispatcher.handlers, ∀ event state, Holds state →
      ∃ after, (run entry.2 event).runOn state = (.ok (), after) ∧ Holds after ∧
        log after = log state ++ gain entry.2 event)
    (events : List E) {state : State} (start : Holds state) :
    ∃ after, (dispatcher.deliver topicOf run events).runOn state = (.ok (), after) ∧
      Holds after ∧ log after = log state ++
        (dispatcher.plan topicOf events).flatMap fun told => gain told.1 told.2 := by
  rw [flatMap_plan]
  refine Act.forM_logs (fun event _ middle held => ?_) start
  refine Act.forM_logs (fun handler registered later holds => ?_) held
  obtain ⟨entry, member, rfl⟩ := mem_handlers_of_handlersOf registered
  exact each entry member event later holds

theorem plan_push (id : Uuid) (more events : List E) :
    (dispatcher.push id more).plan topicOf events = dispatcher.plan topicOf events := by
  simp only [plan, handlersOf, push_handlers]

/-- What one handler hears of a telling. -/
def heardBy [DecidableEq H] (listener handler : H) (event : E) : List E :=
  if handler = listener then [event] else []

theorem flatMap_heardBy [DecidableEq H] (listener : H) (handlers : List H) (event : E) :
    handlers.flatMap (heardBy listener · event) =
      List.replicate (handlers.count listener) event := by
  induction handlers with
  | nil => rfl
  | cons handler others ih =>
    rw [List.flatMap_cons, ih, List.count_cons, heardBy]
    by_cases here : handler = listener
    · simp [here, List.replicate_succ]
    · simp [here]

/-- A handler that is registered once for each topic is planned to be told of every event once. -/
theorem plan_heard [DecidableEq H] {listener : H}
    (once : ∀ topic, (dispatcher.handlersOf topic).count listener = 1) (events : List E) :
    ((dispatcher.plan topicOf events).flatMap fun told => heardBy listener told.1 told.2) =
      events := by
  rw [flatMap_plan (heardBy listener)]
  induction events with
  | nil => rfl
  | cons event rest ih =>
    rw [List.flatMap_cons, ih, flatMap_heardBy, once]
    rfl

end Dispatcher

/-! ## What handlers take -/

namespace Files

open Act

variable {env : Env} (heard : env.outside.Heard) (name : String)

include heard

theorem handle_ok {handler : FileHandler} (takes : ∀ failure, handler ≠ .refuser failure)
    (event : Event) (state : State) :
    ∃ after, (handle env handler event).runOn state = (.ok (), after) ∧
      after.fileLog name = state.fileLog name ++
        Dispatcher.heardBy (.recorder name) handler event := by
  cases handler with
  | refuser failure => exact absurd rfl (takes failure)
  | recorder other =>
    refine ⟨state.noted (.handledFile other event), ?_, ?_⟩
    · rw [handle, runOn_callRecords, heard _ _ rfl]
    · rw [State.fileLog_noted, Call.fileEvent?, Dispatcher.heardBy]
      by_cases here : other = name
      · simp [here]
      · simp [here]

theorem dispatch_ok {state : State}
    (takes : ∀ entry ∈ state.fileEvents.handlers, ∀ failure, entry.2 ≠ .refuser failure)
    (id : Uuid) :
    ∃ after, (dispatch env id).runOn state = (.ok (), after) ∧
      after.fileLog name = state.fileLog name ++
        (state.fileEvents.plan Event.topic (state.fileEvents.waiting id)).flatMap fun told =>
          Dispatcher.heardBy (.recorder name) told.1 told.2 := by
  obtain ⟨after, ran, -, logged⟩ := @Dispatcher.deliver_ok _ _ _ _ _ _ Event.topic (handle env)
    state.fileEvents (fun _ => True) (·.fileLog name) (Dispatcher.heardBy (.recorder name))
    (fun entry member event state _ => by
      obtain ⟨after, ran, logged⟩ := handle_ok heard name (takes entry member) event state
      exact ⟨after, ran, trivial, logged⟩)
    (state.fileEvents.waiting id)
    { state with fileEvents := state.fileEvents.release id } trivial
  exact ⟨after, ran, logged⟩

theorem removeOfOwner_ok (files : env.outside.Reliable "files")
    (storage : env.outside.Reliable "storage") {state : State} (inMemory : state.InMemory)
    (takes : ∀ entry ∈ state.fileEvents.handlers, ∀ failure, entry.2 ≠ .refuser failure)
    {owner : Owner} {file : File} (found : state.files.current? owner = some file)
    (correlation : Uuid) :
    ∃ after, (removeOfOwner env owner correlation).runOn state = (.ok file.detached, after) ∧
      Emptied state [file] (state.files.erase file.id) after ∧
      after.fileLog name = state.fileLog name ++
        (state.fileEvents.plan Event.topic (state.fileEvents.waiting file.id ++
          (file.markDeleted correlation env.now).uncommitted)).flatMap fun told =>
            Dispatcher.heardBy (.recorder name) told.1 told.2 := by
  have located : (locate env (.byOwner owner)).runOn state =
      (.ok file, state.noted (.findCurrentFile owner)) := locate_present files found
  -- The deletion waits and is told, and only then do the content and the record go.
  let marked := file.markDeleted correlation env.now
  let waiting : State := { state.noted (.findCurrentFile owner) with
    fileEvents := state.fileEvents.push marked.id marked.uncommitted }
  have pending : (markPending marked).runOn (state.noted (.findCurrentFile owner)) =
      ((.ok file.detached : Except FileFailure File), waiting) := rfl
  obtain ⟨middle, told, logged⟩ := @dispatch_ok env heard name waiting
    (by rwa [Dispatcher.push_handlers]) file.id
  have spared := (keeps_dispatch env file.id).allows told
  obtain ⟨after, removed, emptied⟩ := removeFile_ok files storage
    (Frame.inMemory_of_sparing spared inMemory) file.detached
  have quiet := (kept_removeFile Frame.quietFiles_files file.detached).allows removed
  refine ⟨after, ?_, ?_, ?_⟩
  · have delivered : (onRecords (dispatch env file.detached.id)).runOn waiting = (.ok (), middle) :=
      runOn_mapFailure_ok told
    rw [removeOfOwner, runOn_bind_ok located, runOn_bind_ok pending, runOn_bind_ok delivered,
      runOn_bind_ok removed]
    rfl
  · have same : middle.files = state.files := spared.1.1
    have contents : middle.blobs = state.blobs := spared.1.2.1
    rw [same] at emptied
    obtain ⟨gone, kept, content⟩ := emptied.since contents
    exact ⟨gone, kept, content⟩
  · have before : waiting.fileLog name = state.fileLog name :=
      (@Frame.quietFiles_noted state (.findCurrentFile owner) fun _ => rfl).2 name
    have theirs : file.id = marked.id := rfl
    rw [quiet.2, logged, before, Dispatcher.plan_push, Dispatcher.waiting_push, if_pos theirs]

end Files

namespace Accounts

open Act

variable {env : Env} (untroubled : env.Untroubled) (name : String) {state : State}

include untroubled

theorem handle_ok (inMemory : state.InMemory) {handler : AccountHandler}
    (takes : ∀ failure, handler ≠ .refuser failure) (event : Event) :
    ∃ after, (handle env handler event).runOn state = (.ok (), after) ∧ after.InMemory ∧
      after.accountLog name = state.accountLog name ++
        Dispatcher.heardBy (.recorder name) handler event := by
  cases handler with
  | refuser failure => exact absurd rfl (takes failure)
  | recorder other =>
    refine ⟨state.noted (.handledAccount other event), ?_, inMemory, ?_⟩
    · rw [handle, runOn_callRecords, untroubled.heard _ _ rfl]
    · rw [State.accountLog_noted, Call.accountEvent?, Dispatcher.heardBy]
      by_cases here : other = name
      · simp [here]
      · simp [here]
  | fileRemover policy =>
    have unheard : Dispatcher.heardBy (AccountHandler.recorder name) (.fileRemover policy) event =
        [] := rfl
    rw [unheard, List.append_nil, handle]
    cases event.payload with
    | userCreated user username email => exact ⟨state, rfl, inMemory, rfl⟩
    | userDeleted user =>
      obtain ⟨after, removed, emptied⟩ :=
        Files.removeOfUser_ok untroubled.files untroubled.storage inMemory policy user
      have quiet := (Files.kept_removeOfUser Frame.quietAccounts_files
        policy user).allows removed
      refine ⟨after, ?_, emptied.inMemory, quiet.2 name⟩
      exact (runOn_bind_ok (runOn_mapFailure_ok removed)).trans (runOn_pure _ _)

theorem dispatch_ok (inMemory : state.InMemory)
    (takes : ∀ entry ∈ state.accountEvents.handlers, ∀ failure, entry.2 ≠ .refuser failure)
    (id : Uuid) :
    ∃ after, (dispatch env id).runOn state = (.ok (), after) ∧
      after.accountLog name = state.accountLog name ++
        (state.accountEvents.plan Event.topic (state.accountEvents.waiting id)).flatMap fun told =>
          Dispatcher.heardBy (.recorder name) told.1 told.2 := by
  obtain ⟨after, ran, -, logged⟩ := @Dispatcher.deliver_ok _ _ _ _ _ _ Event.topic (handle env)
    state.accountEvents State.InMemory (·.accountLog name) (Dispatcher.heardBy (.recorder name))
    (fun entry member event state kept => handle_ok untroubled name kept (takes entry member) event)
    (state.accountEvents.waiting id)
    { state with accountEvents := state.accountEvents.release id } inMemory
  exact ⟨after, ran, logged⟩

end Accounts

end Depot
