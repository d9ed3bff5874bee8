import Depot.Proofs.Service.Effects
import Depot.Proofs.Service.Idle

/-!
# Runs

A run takes one operation after the other, each in surroundings of its own: any clock, any
services, any faults.  Operations are the use cases and whole requests.  Every operation
makes one turn of the file stores, so that a run over records that take every write keeps
them sound, and exact as long as no content fails to be removed.
-/

set_option autoImplicit false

namespace Depot

open Files (CascadePolicy)

/-- What may be asked of the service: a use case, or a request over the wire. -/
inductive Operation
  | register (request : Accounts.Registration) (id : Uuid)
  | provision (request : Accounts.Provision) (id : Uuid) (draws : List Nat)
  | change (request : Accounts.Change)
  | deleteUser (id correlation : Uuid)
  | upload (strategy : Files.ReplaceStrategy) (request : Files.UploadRequest) (id : Uuid)
  | removeFile (id : Uuid)
  | removeFileOf (owner : Files.Owner) (correlation : Uuid)
  | removeFilesOfUser (policy : CascadePolicy) (user : Uuid)
  | serve (app : Service.App) (drawn : Service.Drawn) (request : Service.Request)

namespace Operation

def next (env : Env) (operation : Operation) (state : State) : State :=
  match operation with
  | register request id => ((Accounts.register env request id).runOn state).2
  | provision request id draws => ((Accounts.provision env request id draws).runOn state).2
  | change request => ((Accounts.change env request).runOn state).2
  | deleteUser id correlation => ((Accounts.delete env id correlation).runOn state).2
  | upload strategy request id => ((Files.upload env strategy request id).runOn state).2
  | removeFile id => ((Files.remove env id).runOn state).2
  | removeFileOf owner correlation => ((Files.removeOfOwner env owner correlation).runOn state).2
  | removeFilesOfUser policy user => ((Files.removeOfUser env policy user).runOn state).2
  | serve app drawn request => (Service.answer env app drawn request state).2

/-- The identifier drawn for a file that an operation may make. -/
def fileId? : Operation → Option Uuid
  | upload _ _ id => some id
  | serve _ drawn _ => some drawn.id
  | _ => none

/-- Whether an operation that removes the files of a user by itself goes on after failures. -/
def GoesOn : Operation → Prop
  | removeFilesOfUser policy _ => policy.continueOnItemFailure = true
  | _ => True

variable {env : Env} {operation : Operation} {state : State} {issued : Uuid → Prop}

theorem next_serve (app : Service.App) (drawn : Service.Drawn) (request : Service.Request) :
    (serve app drawn request).next env state =
      ((Service.act env app drawn request).runOn state).2 := by
  rw [next, Service.answer_state]

/-- Every operation leaves the handlers of accounts as they are and makes one turn, as long
as no failed removal can stop it. -/
theorem turn_next (reliable : env.outside.Reliable "files")
    (goesOn : operation.GoesOn ∨ env.outside.Reliable "storage") (calm : env.Calm state)
    (sound : state.Sound issued) (fresh : ∀ id, operation.fileId? = some id → ¬ issued id) :
    (operation.next env state).accountEvents.handlers = state.accountEvents.handlers ∧
      (Frame.making (operation.fileId? = some ·)).Allows state (operation.next env state) ∧
      Turn env (operation.fileId? = some ·) state (operation.next env state) := by
  have turned {ε α : Type} {act : Act ε α} (turns : act.Turns env (operation.fileId? = some ·)) :
      (act.runOn state).2.accountEvents.handlers = state.accountEvents.handlers ∧
        (Frame.making (operation.fileId? = some ·)).Allows state (act.runOn state).2 ∧
        Turn env (operation.fileId? = some ·) state (act.runOn state).2 := by
    obtain ⟨handlers, turns⟩ := turns state
    refine ⟨handlers, (turns calm).1, (turns calm).2 sound.inMemory _ sound.backed ?_⟩
    exact fun other member again => fresh _ again (sound.known other member)
  cases operation with
  | register request id =>
    rw [next]
    exact turned (.of_calm (Accounts.keeps_register env _ _).calms)
  | provision request id draws =>
    rw [next]
    exact turned (.of_calm (Accounts.keeps_provision env _ _ _).calms)
  | change request =>
    rw [next]
    exact turned (.of_calm (Accounts.keeps_change env _).calms)
  | deleteUser id correlation =>
    rw [next]
    exact turned (.of_calm (Accounts.calms_delete reliable _ _))
  | upload strategy request id =>
    rw [next]
    exact turned (Files.turns_upload reliable _ _ rfl)
  | removeFile id =>
    rw [next]
    exact turned (.of_calm (Files.calms_remove reliable _))
  | removeFileOf owner correlation =>
    rw [next]
    exact turned (.of_calm (Files.calms_removeOfOwner reliable _ _))
  | removeFilesOfUser policy user =>
    rw [next]
    have clears := Files.clears_removeOfUser reliable policy user goesOn
    exact turned (.of_calm (clears.calmly (@Files.keeps_removeOfUser env (fun _ => False) _ _)))
  | serve app drawn request =>
    rw [next_serve]
    refine turned (Service.turns_act app drawn reliable ?_ request)
    rfl

/-- The uploads that an operation may make. -/
def Uploads (strategy : Files.ReplaceStrategy) (request : Files.UploadRequest) (id : Uuid) :
    Operation → Prop
  | upload ours theirs given => ours = strategy ∧ theirs = request ∧ given = id
  | serve app drawn asked => asked.TakesUpload ∧
    app.settings.replaceStrategy = strategy ∧ drawn.id = id ∧ ∃ owner fields,
      Service.UploadQuery.ofQuery? (Service.Target.ofText asked.target).query = some fields ∧
        Service.uploadRequest app drawn owner fields asked.body = request
  | _ => False

/-- A frame of the service that is kept by the uploads of an operation is kept by the operation. -/
theorem allows_next {frame : Frame} (admits : frame.AdmitsService) {env : Env}
    {operation : Operation} (uploads : ∀ strategy request id,
      operation.Uploads strategy request id → (Files.upload env strategy request id).Keeps frame)
    (state : State) : frame.Allows state (operation.next env state) := by
  cases operation with
  | register request id => exact Accounts.kept_register admits.accounts request id state
  | provision request id draws =>
    exact Accounts.kept_provision admits.accounts request id draws state
  | change request => exact Accounts.kept_change admits.accounts request state
  | deleteUser id correlation =>
    exact Accounts.kept_delete admits.accountEvents admits.files admits.accounts id correlation state
  | upload strategy request id => exact uploads strategy request id ⟨rfl, rfl, rfl⟩ state
  | removeFile id => exact Files.kept_remove admits.files id state
  | removeFileOf owner correlation =>
    exact Files.kept_removeOfOwner admits.files admits.fileEvents owner correlation state
  | removeFilesOfUser policy user => exact Files.kept_removeOfUser admits.files policy user state
  | serve app drawn request =>
    rw [next_serve]
    refine Service.kept_act admits request (fun takes owner fields read => ?_) state
    exact uploads _ _ _ ⟨takes, rfl, rfl, owner, fields, read, rfl⟩

theorem retaining_next (env : Env) (operation : Operation) (state : State) :
    state.Retains (operation.next env state) :=
  allows_next Service.retaining_admits (fun _ _ _ _ =>
    Files.kept_upload (@Frame.retaining_files fun _ => True) _ _ fun _ => trivial) state

theorem idleAccounts_next (env : Env) (operation : Operation) (state : State) :
    Frame.idleAccounts.Allows state (operation.next env state) := by
  cases operation with
  | register request id =>
    rw [next]
    exact (Accounts.kept_register Frame.quietAccounts_accounts _ _).idleAccounts state
  | provision request id draws =>
    rw [next]
    exact (Accounts.kept_provision Frame.quietAccounts_accounts _ _ _).idleAccounts state
  | change request =>
    rw [next]
    exact (Accounts.kept_change Frame.quietAccounts_accounts _).idleAccounts state
  | deleteUser id correlation =>
    rw [next]
    exact Accounts.idle_delete id correlation state
  | upload strategy request id =>
    rw [next]
    exact (Files.kept_upload Frame.quietAccounts_files _ _ fun _ => trivial).idleAccounts state
  | removeFile id =>
    rw [next]
    exact (Files.kept_remove Frame.quietAccounts_files _).idleAccounts state
  | removeFileOf owner correlation =>
    rw [next]
    exact (Files.kept_removeOfOwner Frame.quietAccounts_files Frame.quietAccounts_fileEvents _
      _).idleAccounts state
  | removeFilesOfUser policy user =>
    rw [next]
    exact (Files.kept_removeOfUser Frame.quietAccounts_files _ _).idleAccounts state
  | serve app drawn request =>
    rw [next_serve]
    exact Service.idleAccounts_act env app drawn request state

theorem wired_next {policy : CascadePolicy} (env : Env) (operation : Operation)
    (wired : state.Wired policy) : (operation.next env state).Wired policy := by
  have retains := operation.retaining_next env state
  have nothing : state.accountEvents.pending = [] := by rw [wired.events]
  have handlers : (operation.next env state).accountEvents.handlers =
      [(.userDeleted, .fileRemover policy)] := by rw [retains.accountHandlers, wired.events]
  refine ⟨?_, retains.users wired.detached⟩
  rw [← handlers, ← operation.idleAccounts_next env state nothing]

end Operation

/-- An operation and what it finds around it. -/
structure Step where
  env : Env
  operation : Operation

namespace Step

def next (step : Step) (state : State) : State := step.operation.next step.env state

/-- Records take every write, and no failed removal can stop the removal of a user's files:
either removals do not fail, or neither the operation nor a handler would stop. -/
structure Steady (handlers : List (Accounts.Topic × AccountHandler)) (step : Step) : Prop where
  files : step.env.outside.Reliable "files"
  operation : step.operation.GoesOn ∨ step.env.outside.Reliable "storage"
  handlers : ∀ topic policy, (topic, .fileRemover policy) ∈ handlers →
    policy.continueOnItemFailure = true ∨ step.env.outside.Reliable "storage"

end Step

def run (steps : List Step) (state : State) : State :=
  steps.foldl (fun state step => step.next state) state

def fileIds (steps : List Step) : List Uuid := steps.filterMap (·.operation.fileId?)

section Run

variable {state : State} {issued : Uuid → Prop} {steps : List Step}

theorem State.Sound.mono {wider : Uuid → Prop} (sound : state.Sound issued)
    (more : ∀ id, issued id → wider id) : state.Sound wider :=
  { sound with known := fun file member => more _ (sound.known file member) }

theorem Step.Steady.sound {step : Step} (steady : step.Steady state.accountEvents.handlers)
    (fresh : ∀ id, step.operation.fileId? = some id → ¬ issued id) (sound : state.Sound issued) :
    (step.next state).Sound (fun id => issued id ∨ step.operation.fileId? = some id) ∧
      (step.next state).accountEvents.handlers = state.accountEvents.handlers := by
  obtain ⟨handlers, moved, turn⟩ :=
    Operation.turn_next steady.files steady.operation steady.handlers sound fresh
  exact ⟨turn.sound moved fresh sound, handlers⟩

theorem Step.Steady.exact {step : Step} (steady : step.Steady state.accountEvents.handlers)
    (fresh : ∀ id, step.operation.fileId? = some id → ¬ issued id) (sound : state.Sound issued)
    (reliable : step.env.outside.Reliable "storage") (exact : state.holdings.Exact) :
    (step.next state).holdings.Exact :=
  (Operation.turn_next steady.files steady.operation steady.handlers sound fresh).2.2.exact
    reliable exact

theorem fileIds_cons (step : Step) (rest : List Step) :
    fileIds (step :: rest) = step.operation.fileId?.toList ++ fileIds rest := by
  cases drawn : step.operation.fileId? <;> simp [fileIds, drawn]

/-- A run keeps the stores sound, and exact if no content fails to be removed. -/
theorem run_sound (steady : ∀ step ∈ steps, step.Steady state.accountEvents.handlers)
    (distinct : (fileIds steps).Nodup) (fresh : ∀ id ∈ fileIds steps, ¬ issued id)
    (sound : state.Sound issued) :
    (run steps state).Sound (fun id => issued id ∨ id ∈ fileIds steps) ∧
      ((∀ step ∈ steps, step.env.outside.Reliable "storage") → state.holdings.Exact →
        (run steps state).holdings.Exact) := by
  induction steps generalizing state issued with
  | nil => exact ⟨sound.mono fun id => .inl, fun _ exact => exact⟩
  | cons step rest ih =>
    rw [fileIds_cons] at distinct fresh ⊢
    obtain ⟨-, distinctRest, apart⟩ := List.nodup_append.1 distinct
    have own : ∀ id, step.operation.fileId? = some id → ¬ issued id := fun id drawn =>
      fresh id (List.mem_append_left _ (by simp [drawn]))
    have later : ∀ id ∈ fileIds rest, ¬ (issued id ∨ step.operation.fileId? = some id) := by
      rintro id member (old | drawn)
      · exact fresh id (List.mem_append_right _ member) old
      · exact apart id (by simp [drawn]) id member rfl
    have steadyStep := steady step (.head rest)
    obtain ⟨next, handlers⟩ := steadyStep.sound own sound
    obtain ⟨last, exactly⟩ := ih (handlers.symm ▸ fun other member => steady other (.tail _ member))
      distinctRest later next
    refine ⟨last.mono fun id known => ?_, fun reliable exact => ?_⟩
    · rcases known with (old | drawn) | rest
      · exact .inl old
      · exact .inr (List.mem_append_left _ (by simp [drawn]))
      · exact .inr (List.mem_append_right _ rest)
    · exact exactly (fun other member => reliable other (.tail _ member))
        (steadyStep.exact own sound (reliable step (.head rest)) exact)

theorem run_wired {policy : CascadePolicy} (steps : List Step) (wired : state.Wired policy) :
    (run steps state).Wired policy := by
  induction steps generalizing state with
  | nil => exact wired
  | cons step rest ih => exact ih (step.operation.wired_next step.env wired)

end Run

/-- The service as it is set up: nothing is stored, and the files of a deleted user are
removed. -/
def State.initial (policy : CascadePolicy) : State :=
  { accountEvents := ⟨[(.userDeleted, .fileRemover policy)], []⟩ }

/-! ## Plain surroundings -/

/-- Services that never fail and take every content for plain text. -/
def Outside.plain : Outside where
  hash _ password := password
  mimeType _ _ := some "text/plain"
  sides _ _ := none
  transform _ _ _ := .error (.refused "no picture")

/-- The plain services, but no content can be removed. -/
def Outside.hoarding : Outside :=
  { Outside.plain with
    backendFault := fun calls =>
      match calls with
      | .deleteBlob path :: _ => some (.refused path)
      | _ => none }

theorem Outside.plain_reliable (service : String) : Outside.plain.Reliable service :=
  fun _ _ _ => ⟨rfl, rfl⟩

def Env.plain : Env := ⟨⟨0, 0⟩, ⟨"", ""⟩, .plain⟩

theorem Outside.hoarding_reliable {service : String} (other : service ≠ "storage") :
    Outside.hoarding.Reliable service := by
  intro call earlier goes
  refine ⟨rfl, ?_⟩
  cases call with
  | deleteBlob path => exact absurd (Option.some.inj goes).symm other
  | _ => rfl

/-- One second after the other, a text file is uploaded for a user and replaced under
another name. -/
def replacement (outside : Outside) (user : Uuid) : List Step :=
  [("first.txt", 0), ("second.txt", 1)].map fun (filename, second) =>
    ⟨⟨⟨second, 0⟩, ⟨"", ""⟩, outside⟩, .upload .uploadThenSwap {
      owner := ⟨"user", user.text, "note"⟩
      filename
      bytes := filename.toUTF8
      environment := "test" } (.ofNat second.toNat)⟩

theorem outside_of_replacement {outside : Outside} {user : Uuid} {step : Step}
    (member : step ∈ replacement outside user) : step.env.outside = outside := by
  obtain ⟨_, -, rfl⟩ := List.mem_map.1 member
  rfl

/-- The user is registered before the uploads. -/
def population (outside : Outside) (user : Uuid) : List Step :=
  ⟨⟨⟨0, 0⟩, ⟨"", ""⟩, outside⟩, .register { username := "keeper", email := "keeper@example.org" }
    user⟩ :: replacement outside user

theorem outside_of_population {outside : Outside} {user : Uuid} {step : Step}
    (member : step ∈ population outside user) : step.env.outside = outside := by
  rcases List.mem_cons.1 member with rfl | later
  · rfl
  · exact outside_of_replacement later

end Depot
