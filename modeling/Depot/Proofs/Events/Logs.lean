import Depot.Proofs.Accounts.Moves

/-!
# What recorders have been told

A recorder notes every event that it is told of, so that the calls hold a log for each
recorder.  Work that hands over no event of one kind leaves the dispatcher and the logs of
that kind alone; and no work turns the handlers around or stores a record with events.
-/

set_option autoImplicit false

namespace Depot

namespace Call

/-- The event of an account that a call tells a recorder of. -/
def accountEvent? (name : String) : Call → Option Accounts.Event
  | handledAccount recorder event => if recorder = name then some event else none
  | _ => none

/-- The event of a file that a call tells a recorder of. -/
def fileEvent? (name : String) : Call → Option Files.Event
  | handledFile recorder event => if recorder = name then some event else none
  | _ => none

variable {call : Call} (goes : call.service?.isSome) (name : String)

include goes

theorem accountEvent?_of_service : call.accountEvent? name = none := by
  cases call <;> first | rfl | contradiction

theorem fileEvent?_of_service : call.fileEvent? name = none := by
  cases call <;> first | rfl | contradiction

end Call

namespace State

/-- What a recorder has been told of accounts, in order. -/
def accountLog (state : State) (name : String) : List Accounts.Event :=
  state.calls.reverse.filterMap (·.accountEvent? name)

/-- What a recorder has been told of files, in order. -/
def fileLog (state : State) (name : String) : List Files.Event :=
  state.calls.reverse.filterMap (·.fileEvent? name)

theorem filterMap_noted {E : Type} (told : Call → Option E) (state : State) (call : Call) :
    (state.noted call).calls.reverse.filterMap told =
      state.calls.reverse.filterMap told ++ (told call).toList := by
  rw [noted_calls, List.reverse_cons, List.filterMap_append]
  cases event : told call <;> simp [event]

theorem accountLog_noted (state : State) (call : Call) (name : String) :
    (state.noted call).accountLog name =
      state.accountLog name ++ (call.accountEvent? name).toList :=
  filterMap_noted _ state call

theorem fileLog_noted (state : State) (call : Call) (name : String) :
    (state.noted call).fileLog name = state.fileLog name ++ (call.fileEvent? name).toList :=
  filterMap_noted _ state call

end State

/-! ## What is told to nobody -/

/-- No stored record carries events. -/
structure State.Detached (state : State) : Prop where
  users : ∀ user ∈ state.users.records, user.uncommitted = []
  files : ∀ file ∈ state.files.records, file.uncommitted = []

/-- Contents stay in memory, stored records without events, and handlers where they are. -/
structure State.Retains (before after : State) : Prop where
  inMemory : before.InMemory → after.InMemory
  users : (∀ user ∈ before.users.records, user.uncommitted = []) →
    ∀ user ∈ after.users.records, user.uncommitted = []
  files : (∀ file ∈ before.files.records, file.uncommitted = []) →
    ∀ file ∈ after.files.records, file.uncommitted = []
  accountHandlers : after.accountEvents.handlers = before.accountEvents.handlers
  fileHandlers : after.fileEvents.handlers = before.fileEvents.handlers

theorem State.Retains.detached {before after : State} (retains : before.Retains after)
    (detached : before.Detached) : after.Detached :=
  ⟨retains.users detached.users, retains.files detached.files⟩

namespace Frame

def retaining : Frame where
  Allows := State.Retains
  stay _ := ⟨id, id, id, rfl, rfl⟩
  chain first second :=
    ⟨second.inMemory ∘ first.inMemory, second.users ∘ first.users, second.files ∘ first.files,
      second.accountHandlers.trans first.accountHandlers,
      second.fileHandlers.trans first.fileHandlers⟩

theorem retaining_files {recorded : Files.File → Prop} : retaining.AdmitsFiles recorded where
  note _ _ _ _ := ⟨id, id, id, rfl, rfl⟩
  insert state file files _ inserted := by
    refine ⟨id, id, fun bare other member => ?_, rfl, rfl⟩
    rw [(Files.Catalogue.insert_ok inserted).2] at member
    rcases List.mem_append.1 member with present | last
    · exact bare other present
    · rw [List.mem_singleton.1 last]
      rfl
  thin _ _ part := ⟨id, id, fun bare file member => bare file (part.subset member), rfl, rfl⟩
  change _ _ memory := ⟨memory, id, id, rfl, rfl⟩

theorem retaining_fileEvents : retaining.AdmitsFileEvents where
  tell _ _ _ := ⟨id, id, id, rfl, rfl⟩
  turn _ _ same := ⟨id, id, id, rfl, same⟩

theorem retaining_accounts : retaining.AdmitsAccounts where
  note _ _ _ _ := ⟨id, id, id, rfl, rfl⟩
  change _ _ kept := ⟨id, kept, id, rfl, rfl⟩

theorem retaining_accountEvents : retaining.AdmitsAccountEvents where
  tell _ _ _ := ⟨id, id, id, rfl, rfl⟩
  turn _ _ same := ⟨id, id, id, same, rfl⟩

/-- No event is handed over on a desk, and no recorder is told of one. -/
def quiet {T H E : Type} (desk : Desk T H E) (log : State → String → List E) : Frame where
  Allows before after := desk.dispatcher after = desk.dispatcher before ∧
    ∀ name, log after name = log before name
  stay _ := ⟨rfl, fun _ => rfl⟩
  chain first second :=
    ⟨second.1.trans first.1, fun name => (second.2 name).trans (first.2 name)⟩

abbrev quietAccounts : Frame := quiet accountDesk State.accountLog

abbrev quietFiles : Frame := quiet fileDesk State.fileLog

theorem quietAccounts_noted {state : State} {call : Call}
    (other : ∀ name, call.accountEvent? name = none) :
    quietAccounts.Allows state (state.noted call) := by
  refine ⟨rfl, fun name => ?_⟩
  rw [State.accountLog_noted, other, Option.toList_none, List.append_nil]

theorem quietFiles_noted {state : State} {call : Call}
    (other : ∀ name, call.fileEvent? name = none) : quietFiles.Allows state (state.noted call) := by
  refine ⟨rfl, fun name => ?_⟩
  rw [State.fileLog_noted, other, Option.toList_none, List.append_nil]

theorem quietAccounts_files : quietAccounts.AdmitsFiles fun _ => True where
  note _ _ goes _ := quietAccounts_noted (Call.accountEvent?_of_service goes)
  insert _ _ _ _ _ := ⟨rfl, fun _ => rfl⟩
  thin _ _ _ := ⟨rfl, fun _ => rfl⟩
  change _ _ _ := ⟨rfl, fun _ => rfl⟩

theorem quietAccounts_fileEvents : quietAccounts.AdmitsFileEvents where
  tell _ _ _ := quietAccounts_noted fun _ => rfl
  turn _ _ _ := ⟨rfl, fun _ => rfl⟩

theorem quietAccounts_accounts : quietAccounts.AdmitsAccounts where
  note _ _ goes _ := quietAccounts_noted (Call.accountEvent?_of_service goes)
  change _ _ _ := ⟨rfl, fun _ => rfl⟩

theorem quietFiles_files : quietFiles.AdmitsFiles fun _ => True where
  note _ _ goes _ := quietFiles_noted (Call.fileEvent?_of_service goes)
  insert _ _ _ _ _ := ⟨rfl, fun _ => rfl⟩
  thin _ _ _ := ⟨rfl, fun _ => rfl⟩
  change _ _ _ := ⟨rfl, fun _ => rfl⟩

theorem quietFiles_accounts : quietFiles.AdmitsAccounts where
  note _ _ goes _ := quietFiles_noted (Call.fileEvent?_of_service goes)
  change _ _ _ := ⟨rfl, fun _ => rfl⟩

theorem quietFiles_accountEvents : quietFiles.AdmitsAccountEvents where
  tell _ _ _ := quietFiles_noted fun _ => rfl
  turn _ _ _ := ⟨rfl, fun _ => rfl⟩

end Frame

/-! ## One dispatcher leaves the other alone -/

/-- The handlers and waiting events of files stay. -/
def Frame.sparingFileEvents : Frame where
  Allows before after := after.fileEvents = before.fileEvents
  stay _ := rfl
  chain first second := second.trans first

namespace Files

open Act

theorem sparingFileEvents_admits (recorded : File → Prop) :
    Frame.sparingFileEvents.AdmitsFiles recorded where
  note _ _ _ _ := rfl
  insert _ _ _ _ _ := rfl
  thin _ _ _ := rfl
  change _ _ _ := rfl

/-- Delivery takes what waits for the file, whatever the handlers do. -/
theorem fileEvents_dispatch (env : Env) (id : Uuid) (state : State) :
    ((dispatch env id).runOn state).2.fileEvents = state.fileEvents.release id := by
  have delivered : Act.Keeps .sparingFileEvents (state.fileEvents.deliver Event.topic (handle env)
      (state.fileEvents.waiting id)) :=
    .deliver fun event _ handler _ => kept_handle (fun _ _ _ => rfl) handler event
  exact delivered { state with fileEvents := state.fileEvents.release id }

end Files

namespace Accounts

theorem sparingFileEvents_admits : Frame.sparingFileEvents.AdmitsAccountEvents where
  tell _ _ _ := rfl
  turn _ _ _ := rfl

theorem fileEvents_dispatch (env : Env) (id : Uuid) (state : State) :
    ((dispatch env id).runOn state).2.fileEvents = state.fileEvents :=
  kept_dispatch sparingFileEvents_admits (Files.sparingFileEvents_admits fun _ => True) id state

end Accounts

end Depot
