import Depot.Proofs.Events.Logs
import Depot.Proofs.Events.Waiting
import Depot.Proofs.Runs

/-!
# No event is lost, doubled or moved

A ledger notes what has been handed over to a dispatcher and which batches have been
taken from it.  After any uses of the two dispatchers of the service, with any handlers
and any faults, what has been taken for a record and what still waits for it make up
what has been handed over for it, in order; and exactly those records wait of which not
all has been taken.
-/

set_option autoImplicit false

namespace Depot

/-- What has been handed over, and the batches taken, each with the record asked for. -/
structure Ledger (E : Type) where
  handed : List E := []
  taken : List (Uuid × List E) := []

/-- What can be done with a dispatcher. The records `R` keep events of their own. -/
inductive Dispatcher.Use (T H E R : Type)
  | register (topic : T) (handler : H)
  | mark (record : R)
  | enqueue (events : List E)
  | dispatch (env : Env) (id : Uuid)
  | reset

namespace Ledger

variable {T H E R : Type}

/-- The events handed over that belong to a record. -/
def handedOf (idOf : E → Uuid) (ledger : Ledger E) (id : Uuid) : List E :=
  ledger.handed.filter (idOf · = id)

/-- All that has been taken for a record, batch after batch. -/
def takenOf (ledger : Ledger E) (id : Uuid) : List E :=
  (ledger.taken.filter (·.1 = id)).flatMap (·.2)

def outstanding (idOf : E → Uuid) (ledger : Ledger E) : Finset Uuid :=
  (ledger.handed.map idOf).toFinset.filter fun id =>
    (ledger.takenOf id).length < (ledger.handedOf idOf id).length

/-- The ledger after a use. A reset starts it anew. -/
def after (eventsOf : R → List E) (dispatcher : Dispatcher T H E) (ledger : Ledger E) :
    Dispatcher.Use T H E R → Ledger E
  | .register .. => ledger
  | .mark record => { ledger with handed := ledger.handed ++ eventsOf record }
  | .enqueue events => { ledger with handed := ledger.handed ++ events }
  | .dispatch _ id => { ledger with taken := ledger.taken ++ [(id, dispatcher.waiting id)] }
  | .reset => {}

/-- The ledger agrees with what waits. -/
structure Balances (idOf : E → Uuid) (ledger : Ledger E) (dispatcher : Dispatcher T H E) :
    Prop where
  conserved : ∀ id, ledger.takenOf id ++ dispatcher.waiting id = ledger.handedOf idOf id
  alone : (dispatcher.pending.map (·.1)).Nodup
  filled : ∀ entry ∈ dispatcher.pending, entry.2 ≠ []
  isPending : ∀ id, dispatcher.isPending id = true ↔ id ∈ ledger.outstanding idOf
  count : dispatcher.pending.length = (ledger.outstanding idOf).card

variable {idOf : E → Uuid} {ledger : Ledger E} {dispatcher : Dispatcher T H E}

theorem takenOf_append (ledger : Ledger E) (id : Uuid) (batch : List E) (other : Uuid) :
    takenOf { ledger with taken := ledger.taken ++ [(id, batch)] } other =
      ledger.takenOf other ++ if other = id then batch else [] := by
  by_cases same : other = id
  · simp [takenOf, same]
  · simp [takenOf, same, Ne.symm same]

theorem handedOf_append (ledger : Ledger E) (events : List E) (id : Uuid) :
    handedOf idOf { ledger with handed := ledger.handed ++ events } id =
      ledger.handedOf idOf id ++ events.filter (idOf · = id) := by
  simp [handedOf]

theorem mem_outstanding_iff
    (conserved : ∀ id, ledger.takenOf id ++ dispatcher.waiting id = ledger.handedOf idOf id)
    (id : Uuid) : id ∈ ledger.outstanding idOf ↔ dispatcher.waiting id ≠ [] := by
  have lengths := congrArg List.length (conserved id)
  rw [List.length_append] at lengths
  rw [outstanding, Finset.mem_filter, List.mem_toFinset, ← List.length_pos_iff]
  constructor
  · rintro ⟨-, more⟩
    omega
  · intro waits
    have some : 0 < (ledger.handedOf idOf id).length := by omega
    obtain ⟨event, member⟩ := List.exists_mem_of_length_pos some
    obtain ⟨handed, own⟩ := List.mem_filter.1 member
    exact ⟨List.mem_map.2 ⟨event, handed, by simpa using own⟩, by omega⟩

theorem Balances.of_tidy (tidy : dispatcher.Tidy)
    (conserved : ∀ id, ledger.takenOf id ++ dispatcher.waiting id = ledger.handedOf idOf id) :
    ledger.Balances idOf dispatcher := by
  have keys : ∀ id, id ∈ dispatcher.pending.map (·.1) ↔ id ∈ ledger.outstanding idOf := by
    intro id
    rw [tidy.mem_keys_iff, mem_outstanding_iff conserved]
  refine ⟨conserved, tidy.alone, tidy.filled, ?_, ?_⟩
  · intro id
    rw [Dispatcher.isPending_iff_mem, keys]
  · have same : (dispatcher.pending.map (·.1)).toFinset = ledger.outstanding idOf := by
      ext id
      rw [List.mem_toFinset, keys]
    rw [← same, List.toFinset_card_of_nodup tidy.alone, List.length_map]

theorem Balances.tidy (balanced : ledger.Balances idOf dispatcher) : dispatcher.Tidy :=
  ⟨balanced.alone, balanced.filled⟩

theorem Balances.fresh (idOf : E → Uuid) (nothing : dispatcher.pending = []) :
    Balances idOf {} dispatcher := by
  refine .of_tidy (.of_empty nothing) ?_
  intro id
  rw [Dispatcher.waiting_eq, nothing]
  rfl

/-! ## One use -/

theorem Balances.congr {other : Dispatcher T H E} (balanced : ledger.Balances idOf dispatcher)
    (same : other.pending = dispatcher.pending) : ledger.Balances idOf other := by
  refine .of_tidy ⟨same ▸ balanced.alone, same ▸ balanced.filled⟩ ?_
  intro id
  rw [Dispatcher.waiting_eq, same, ← Dispatcher.waiting_eq]
  exact balanced.conserved id

theorem Balances.push (balanced : ledger.Balances idOf dispatcher) {id : Uuid} {events : List E}
    (own : ∀ event ∈ events, idOf event = id) :
    Balances idOf { ledger with handed := ledger.handed ++ events }
      (dispatcher.push id events) := by
  refine .of_tidy (balanced.tidy.push id events) ?_
  intro other
  have theirs : events.filter (idOf · = other) = if other = id then events else [] := by
    by_cases same : other = id
    · rw [if_pos same, List.filter_eq_self]
      intro event member
      simp [own event member, same]
    · rw [if_neg same, List.filter_eq_nil_iff]
      intro event member
      simp [own event member, Ne.symm same]
  rw [Dispatcher.waiting_push, handedOf_append, theirs, ← balanced.conserved other,
    List.append_assoc]
  rfl

theorem Balances.enqueue (balanced : ledger.Balances idOf dispatcher) (events : List E) :
    Balances idOf { ledger with handed := ledger.handed ++ events }
      (dispatcher.enqueue idOf events) := by
  refine .of_tidy (balanced.tidy.enqueue idOf events) ?_
  intro id
  rw [Dispatcher.waiting_enqueue, handedOf_append, ← balanced.conserved id, List.append_assoc]
  rfl

theorem Balances.release (balanced : ledger.Balances idOf dispatcher) (id : Uuid) :
    Balances idOf { ledger with taken := ledger.taken ++ [(id, dispatcher.waiting id)] }
      (dispatcher.release id) := by
  refine .of_tidy (balanced.tidy.release id) ?_
  intro other
  rw [takenOf_append, balanced.tidy.waiting_release, List.append_assoc]
  by_cases same : other = id
  · rw [if_pos same, if_pos same, List.append_nil, ← same]
    exact balanced.conserved other
  · rw [if_neg same, if_neg same, List.nil_append]
    exact balanced.conserved other

end Ledger

/-- The dispatcher after a use. Delivery takes what waits for the record, whatever becomes of it. -/
def Dispatcher.Use.next {T H E R : Type} (idOf : E → Uuid) (keyOf : R → Uuid)
    (eventsOf : R → List E) (dispatcher : Dispatcher T H E) :
    Dispatcher.Use T H E R → Dispatcher T H E
  | .register topic handler => dispatcher.register topic handler
  | .mark record => dispatcher.push (keyOf record) (eventsOf record)
  | .enqueue events => dispatcher.enqueue idOf events
  | .dispatch _ id => dispatcher.release id
  | .reset => {}

theorem Ledger.Balances.next {T H E R : Type} {idOf : E → Uuid} {keyOf : R → Uuid}
    {eventsOf : R → List E} {ledger : Ledger E} {dispatcher : Dispatcher T H E}
    (balanced : ledger.Balances idOf dispatcher) (use : Dispatcher.Use T H E R)
    (own : ∀ record, use = .mark record → ∀ event ∈ eventsOf record, idOf event = keyOf record) :
    (ledger.after eventsOf dispatcher use).Balances idOf
      (use.next idOf keyOf eventsOf dispatcher) := by
  cases use with
  | register topic handler => exact balanced.congr rfl
  | mark record => exact balanced.push (own record rfl)
  | enqueue events => exact balanced.enqueue events
  | dispatch env id => exact balanced.release id
  | reset => exact .fresh idOf rfl

/-! ## Records and their events -/

namespace Accounts

/-- The users there can be: made or loaded, and changed since. -/
inductive User.Lived : User → Prop
  | registered (id : Uuid) (username : Username) (email : String) (passwordHash : Option String)
    (roles : List Role) (correlation : Uuid) (time : Instant) :
    Lived (.register id username email passwordHash roles correlation time)
  | loaded {user : User} (quiet : user.uncommitted = []) : Lived user
  | markedDeleted {user : User} (lived : Lived user) (correlation : Uuid) (time : Instant) :
    Lived (user.markDeleted correlation time)
  | renamed {user : User} (lived : Lived user) (username : Username) (time : Instant) :
    Lived (user.rename username time)
  | emailChanged {user : User} (lived : Lived user) (email : String) (time : Instant) :
    Lived (user.changeEmail email time)
  | hashChanged {user : User} (lived : Lived user) (hash : String) (time : Instant) :
    Lived (user.changePasswordHash hash time)
  | rolesAssigned {user : User} (lived : Lived user) (roles : List Role) (time : Instant) :
    Lived (user.assignRoles roles time)

theorem User.note_own {user : User} (own : ∀ event ∈ user.uncommitted, event.record = user.id)
    (correlation : Uuid) (time : Instant) (payload : Payload) :
    ∀ event ∈ (user.note correlation time payload).uncommitted, event.record = user.id :=
  List.forall_mem_append.2 ⟨own, List.forall_mem_singleton.2 rfl⟩

theorem User.Lived.own {user : User} (lived : user.Lived) :
    ∀ event ∈ user.uncommitted, event.record = user.id := by
  induction lived with
  | registered id username email passwordHash roles correlation time =>
    exact User.note_own (by simp) _ _ _
  | loaded quiet => simp [quiet]
  | markedDeleted _ correlation time own => exact User.note_own own _ _ _
  | renamed _ username time own => exact own
  | emailChanged _ email time own => exact own
  | hashChanged _ hash time own => exact own
  | rolesAssigned _ roles time own => exact own

def use : Dispatcher.Use Topic AccountHandler Event User → Act Failure Unit
  | .register topic handler => modifyThe State fun state =>
    { state with accountEvents := state.accountEvents.register topic handler }
  | .mark user => do let _ ← markPending user
  | .enqueue events => enqueue events
  | .dispatch env id => dispatch env id
  | .reset => modifyThe State fun state => { state with accountEvents := {} }

end Accounts

namespace Files

/-- The files there can be: made or loaded, and marked since. -/
inductive File.Lived : File → Prop
  | created (id : Uuid) (owner : Owner) (filename : String) (path : Path) (metadata : Metadata)
    (correlation : Uuid) (time : Instant) :
    Lived (.create id owner filename path metadata correlation time)
  | loaded {file : File} (quiet : file.uncommitted = []) : Lived file
  | markedDeleted {file : File} (lived : Lived file) (correlation : Uuid) (time : Instant) :
    Lived (file.markDeleted correlation time)

theorem File.note_own {file : File} (own : ∀ event ∈ file.uncommitted, event.record = file.id)
    (correlation : Uuid) (time : Instant) (payload : Payload) :
    ∀ event ∈ (file.note correlation time payload).uncommitted, event.record = file.id :=
  List.forall_mem_append.2 ⟨own, List.forall_mem_singleton.2 rfl⟩

theorem File.Lived.own {file : File} (lived : file.Lived) :
    ∀ event ∈ file.uncommitted, event.record = file.id := by
  induction lived with
  | created id owner filename path metadata correlation time =>
    exact File.note_own (by simp) _ _ _
  | loaded quiet => simp [quiet]
  | markedDeleted _ correlation time own => exact File.note_own own _ _ _

def use : Dispatcher.Use Topic FileHandler Event File → Act Failure Unit
  | .register topic handler => modifyThe State fun state =>
    { state with fileEvents := state.fileEvents.register topic handler }
  | .mark file => do let _ ← markPending file
  | .enqueue events => enqueue events
  | .dispatch env id => dispatch env id
  | .reset => modifyThe State fun state => { state with fileEvents := {} }

end Files

/-! ## One dispatcher leaves the other alone -/

namespace Files

open Act

variable (env : Env)

theorem fileEvents_use (use : Dispatcher.Use Topic FileHandler Event File) (state : State) :
    ((Files.use use).runOn state).2.fileEvents =
      use.next Event.record File.id File.uncommitted state.fileEvents := by
  cases use with
  | register topic handler => rfl
  | mark file => rfl
  | enqueue events => rfl
  | dispatch env id => exact fileEvents_dispatch env id state
  | reset => rfl

theorem accountEvents_use (use : Dispatcher.Use Topic FileHandler Event File) (state : State) :
    ((Files.use use).runOn state).2.accountEvents = state.accountEvents := by
  cases use with
  | register topic handler => rfl
  | mark file => rfl
  | enqueue events => rfl
  | dispatch env id => exact (keeps_dispatch env id state).2.2
  | reset => rfl

end Files

namespace Accounts

open Act

variable (env : Env)

theorem accountEvents_use (use : Dispatcher.Use Topic AccountHandler Event User) (state : State) :
    ((Accounts.use use).runOn state).2.accountEvents =
      use.next Event.record User.id User.uncommitted state.accountEvents := by
  cases use with
  | register topic handler => rfl
  | mark user => rfl
  | enqueue events => rfl
  | dispatch env id => exact (accounts_dispatch env id state).2
  | reset => rfl

theorem fileEvents_use (use : Dispatcher.Use Topic AccountHandler Event User) (state : State) :
    ((Accounts.use use).runOn state).2.fileEvents = state.fileEvents := by
  cases use with
  | register topic handler => rfl
  | mark user => rfl
  | enqueue events => rfl
  | dispatch env id => exact fileEvents_dispatch env id state
  | reset => rfl

end Accounts

/-! ## Any number of uses -/

/-- A use of one of the two dispatchers. -/
inductive Handling
  | account (use : Dispatcher.Use Accounts.Topic AccountHandler Accounts.Event Accounts.User)
  | file (use : Dispatcher.Use Files.Topic FileHandler Files.Event Files.File)

/-- What is marked is a user or a file there can be. -/
def Handling.Genuine : Handling → Prop
  | .account (.mark marked) => marked.Lived
  | .file (.mark marked) => marked.Lived
  | _ => True

/-- The state with a ledger for each dispatcher. -/
structure Watched where
  state : State
  accounts : Ledger Accounts.Event := {}
  files : Ledger Files.Event := {}

def Watched.next (watched : Watched) : Handling → Watched
  | .account use => { watched with
      state := ((Accounts.use use).runOn watched.state).2
      accounts := watched.accounts.after Accounts.User.uncommitted watched.state.accountEvents use }
  | .file use => { watched with
      state := ((Files.use use).runOn watched.state).2
      files := watched.files.after Files.File.uncommitted watched.state.fileEvents use }

def watch (handlings : List Handling) (start : State) : Watched :=
  handlings.foldl Watched.next { state := start }

/-- Both ledgers agree with what waits. -/
structure Watched.Balanced (watched : Watched) : Prop where
  accounts : watched.accounts.Balances Accounts.Event.record watched.state.accountEvents
  files : watched.files.Balances Files.Event.record watched.state.fileEvents

theorem Watched.Balanced.next {watched : Watched} (balanced : watched.Balanced)
    {handling : Handling} (genuine : handling.Genuine) : (watched.next handling).Balanced := by
  cases handling with
  | account use =>
    constructor
    · dsimp only [Watched.next]
      rw [Accounts.accountEvents_use]
      refine balanced.accounts.next use ?_
      rintro user rfl
      exact Accounts.User.Lived.own genuine
    · dsimp only [Watched.next]
      rw [Accounts.fileEvents_use]
      exact balanced.files
  | file use =>
    constructor
    · dsimp only [Watched.next]
      rw [Files.accountEvents_use]
      exact balanced.accounts
    · dsimp only [Watched.next]
      rw [Files.fileEvents_use]
      refine balanced.files.next use ?_
      rintro file rfl
      exact Files.File.Lived.own genuine

def keeper : Accounts.User :=
  .register (.ofNat 1) ⟨"keeper", by decide⟩ "keeper@example.org" none [.user] .nil ⟨0, 0⟩

def keepersNote : Files.File :=
  .create (.ofNat 3) ⟨"user", keeper.id.text, "note"⟩ "note.txt"
    ⟨"test", 1970, 1, "user", "keeper", "note.txt", by decide⟩ ⟨"text/plain", 1, none, none⟩ .nil
    ⟨0, 0⟩

/-- The events of two users come mixed, one hand-over is empty, a handler refuses what is
delivered to it, and one delivery is for a user that nothing waits for. -/
def handovers : List Handling :=
  let gone (id : Nat) := Accounts.Event.of (.ofNat id) .nil ⟨1, 0⟩ (.userDeleted (.ofNat id))
  let env : Env := ⟨⟨2, 0⟩, ⟨"", ""⟩, .plain⟩
  [.account (.register .userDeleted (.refuser (.internal "refused"))),
    .account (.mark (keeper.markDeleted .nil ⟨1, 0⟩)),
    .account (.mark keeper.detached),
    .account (.enqueue [gone 2, gone 1, gone 2]),
    .file (.mark keepersNote),
    .account (.dispatch env (.ofNat 1)),
    .account (.dispatch env (.ofNat 7)),
    .file (.mark (keepersNote.markDeleted .nil ⟨1, 0⟩)),
    .account (.enqueue [gone 1])]

/-- From a state in which nothing waits, any uses of the dispatchers keep the ledgers. -/
theorem watch_balanced {start : State} (accounts : start.accountEvents.pending = [])
    (files : start.fileEvents.pending = []) {handlings : List Handling}
    (genuine : ∀ handling ∈ handlings, handling.Genuine) : (watch handlings start).Balanced := by
  have fresh : Watched.Balanced { state := start } := ⟨.fresh _ accounts, .fresh _ files⟩
  unfold watch
  generalize ({ state := start } : Watched) = watched at fresh
  induction handlings generalizing watched with
  | nil => exact fresh
  | cons handling rest ih =>
    have first := fresh.next (genuine handling (.head _))
    exact ih (fun later member => genuine later (.tail _ member)) _ first

theorem watch_balanced_handovers :
    ((watch handovers {}).accounts.takenOf (.ofNat 1)).length = 3 ∧
      (watch handovers {}).state.accountEvents.pending.length = 2 ∧
      (watch handovers {}).Balanced := by
  refine ⟨by decide +kernel, by decide +kernel, watch_balanced rfl rfl ?_⟩
  have user : keeper.Lived := .registered ..
  have note : keepersNote.Lived := .created ..
  simp only [handovers, List.forall_mem_cons]
  refine ⟨trivial, user.markedDeleted _ _, .loaded rfl, trivial, note, trivial, trivial,
    note.markedDeleted _ _, trivial, ?_⟩
  simp

end Depot
