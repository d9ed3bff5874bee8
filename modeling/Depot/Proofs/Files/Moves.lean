import Depot.Files.Removal
import Depot.Proofs.Events.Desk
import Depot.Proofs.Files.Catalogue
import Depot.Proofs.Holdings

/-!
# The moves of work on files

Work on the stores of files is made of a few moves: a call is noted, a file is recorded,
records are taken out, contents are changed.  A frame that admits these moves is kept by
every use case, whatever fails on the way; so what a use case leaves alone is settled by
looking at single moves.
-/

set_option autoImplicit false

namespace Depot

open Files (File)

/-- The frame admits the moves of the stores of files. Only files of a kind are recorded. -/
structure Frame.AdmitsFiles (frame : Frame) (recorded : File → Prop) : Prop where
  note : ∀ state call, call.service?.isSome → (∀ file, call = .createFile file → recorded file) →
    frame.Allows state (state.noted call)
  insert : ∀ state file files, recorded file → state.files.insert file = .ok files →
    frame.Allows state { state with files }
  thin : ∀ state files, files.records.Sublist state.files.records →
    frame.Allows state { state with files }
  change : ∀ state blobs, (state.InMemory → ∃ memory, blobs = .memory memory) →
    frame.Allows state { state with blobs }

namespace Files

namespace Catalogue

theorem eraseFirst_sublist (id : Uuid) (records : List File) :
    (eraseFirst id records).Sublist records := by
  induction records with
  | nil => exact .slnil
  | cons file rest ih =>
    rw [eraseFirst]
    split
    · exact .cons _ (.refl _)
    · exact ih.cons_cons _

theorem insert_ok {files later : Catalogue} {file : File} (inserted : files.insert file = .ok later) :
    (∀ other ∈ files.records, other.id ≠ file.id) ∧ later = ⟨files.records ++ [file.detached]⟩ := by
  unfold insert at inserted
  split_ifs at inserted with known taken
  rw [Except.ok.injEq] at inserted
  exact ⟨by simpa using known, inserted.symm⟩

theorem insert_newPath {files later : Catalogue} {file : File}
    (inserted : files.insert file = .ok later) :
    ∀ other ∈ files.records, other.path ≠ file.path := by
  unfold insert at inserted
  split_ifs at inserted with known taken
  simpa using taken

end Catalogue

open Act

variable {frame : Frame} {recorded : File → Prop} (admits : frame.AdmitsFiles recorded) {env : Env}

/-! ## Single calls -/

section Calls

include admits

theorem kept_looking {ε α : Type} {act : Act ε α} (looks : act.Keeps .looking) :
    act.Keeps frame := by
  refine .of_looking (fun state call looked => ?_) looks
  refine admits.note state call (Call.isSome_service? looked) ?_
  rintro file rfl
  cases looked

theorem kept_createRecord {file : File} (records : recorded file) :
    (createRecord env file).Keeps frame := by
  intro state
  have noted := admits.note state (.createFile file) rfl fun other same =>
    Call.createFile.inj same ▸ records
  rw [runOn_createRecord]
  cases env.outside.recordFault (.createFile file :: state.calls) with
  | some failure => exact noted
  | none =>
    cases inserted : state.files.insert file with
    | error failure => exact noted
    | ok files => exact frame.chain noted (admits.insert _ file files records inserted)

theorem kept_deleteRecord (id : Uuid) : (deleteRecord env id).Keeps frame := by
  intro state
  have noted := admits.note state (.deleteFile id) rfl fun other same => by cases same
  rw [runOn_deleteRecord]
  cases env.outside.recordFault (.deleteFile id :: state.calls) with
  | some failure => exact noted
  | none => exact frame.chain noted (admits.thin _ _ (Catalogue.eraseFirst_sublist id _))

theorem kept_deleteRecordsOfEntity (entityType entityId : String) :
    (deleteRecordsOfEntity env entityType entityId).Keeps frame := by
  intro state
  have noted := admits.note state (.deleteFilesOfEntity entityType entityId) rfl
    fun other same => by cases same
  rw [runOn_deleteRecordsOfEntity]
  cases env.outside.recordFault (.deleteFilesOfEntity entityType entityId :: state.calls) with
  | some failure => exact noted
  | none => exact frame.chain noted (admits.thin _ _ List.filter_sublist)

theorem kept_changeBlobs {call : Call}
    {change : Blobs.Store → Except BackendFailure Unit × Blobs.Store}
    (goes : call.service?.isSome) (other : ∀ file, call ≠ .createFile file)
    (memory : ∀ blobs, ∃ later, (change (.memory blobs)).2 = .memory later) :
    (changeBlobs env call change).Keeps frame := by
  intro state
  have noted := admits.note state call goes fun file same => absurd same (other file)
  rw [runOn_changeBlobs]
  cases env.outside.backendFault (call :: state.calls) with
  | some failure => exact noted
  | none =>
    refine frame.chain noted (admits.change _ _ ?_)
    rintro ⟨blobs, inMemory⟩
    have same : state.blobs = .memory blobs := inMemory
    rw [same]
    exact memory blobs

theorem kept_uploadBlob (bytes : ByteArray) (target : UploadTarget) :
    (uploadBlob env bytes target).Keeps frame :=
  kept_changeBlobs admits rfl (fun _ same => by cases same) fun _ => ⟨_, rfl⟩

theorem kept_deleteBlob (path : String) : (deleteBlob env path).Keeps frame :=
  kept_changeBlobs admits rfl (fun _ same => by cases same) fun _ => ⟨_, rfl⟩

end Calls

/-! ## Removal -/

theorem keeps_locate (env : Env) (locator : Locator) : (locate env locator).Keeps .looking := by
  refine .bind (.mapFailure _ ?_) fun found => ?_
  · cases locator with
    | byId id => exact keeps_fileById env id
    | byOwner owner => exact keeps_currentFile env owner
  · cases found with
    | none => exact .throw _
    | some file => exact .pure _

namespace Locator

def find? (files : Catalogue) : Locator → Option File
  | byId id => files.findById? id
  | byOwner owner => files.current? owner

def call : Locator → Call
  | byId id => .findFileById id
  | byOwner owner => .findCurrentFile owner

end Locator

theorem locate_found {env : Env} {locator : Locator} {file : File} {state after : State}
    (ran : (locate env locator).runOn state = (.ok file, after)) :
    locator.find? state.files = some file := by
  obtain ⟨found, middle, asked, rest⟩ := of_bind_ok ran
  cases found with
  | none => cases rest
  | some other =>
    obtain rfl : other = file := Except.ok.inj (congrArg Prod.fst rest)
    cases locator with
    | byId id => exact (question_ok env (of_mapFailure_ok asked)).symm
    | byOwner owner => exact (question_ok env (of_mapFailure_ok asked)).symm

theorem runOn_locate {env : Env} (reliable : env.outside.Reliable "files") (locator : Locator)
    (state : State) :
    (locate env locator).runOn state =
      (match locator.find? state.files with
        | some file => .ok file
        | none => .error (.notFound locator.text),
      state.noted locator.call) := by
  cases locator with
  | byId id =>
    have asked := question_reliable env reliable (rfl : (Call.findFileById id).service? = _)
      (·.findById? id) state
    refine (runOn_bind_ok asked).trans ?_
    dsimp only [Locator.find?]
    cases state.files.findById? id <;> rfl
  | byOwner owner =>
    have asked := question_reliable env reliable (rfl : (Call.findCurrentFile owner).service? = _)
      (·.current? owner) state
    refine (runOn_bind_ok asked).trans ?_
    dsimp only [Locator.find?]
    cases state.files.current? owner <;> rfl

theorem locate_present {env : Env} (reliable : env.outside.Reliable "files") {locator : Locator}
    {state : State} {file : File} (found : locator.find? state.files = some file) :
    (locate env locator).runOn state = (.ok file, state.noted locator.call) := by
  rw [runOn_locate reliable, found]

theorem locate_missing {env : Env} (reliable : env.outside.Reliable "files") {locator : Locator}
    {state : State} (nothing : locator.find? state.files = none) :
    (locate env locator).runOn state =
      (.error (.notFound locator.text), state.noted locator.call) := by
  rw [runOn_locate reliable, nothing]

/-- The removal of contents keeps what the removal of each one keeps. -/
theorem removeContents_of_each (each : ∀ path, (deleteBlob env path).Keeps frame)
    (policy : CascadePolicy) (files : List File) :
    (removeContents env policy files).Keeps frame := by
  induction files with
  | nil => exact .pure _
  | cons file rest ih =>
    refine .bind (.outcome (each _)) fun result => ?_
    cases result with
    | ok _ => exact ih
    | error failure =>
      dsimp only
      cases policy.continueOnItemFailure with
      | true => exact ih
      | false => exact .bind (.throw _) fun _ => ih

section Removal

include admits

theorem kept_removeFile (file : File) : (removeFile env file).Keeps frame :=
  .bind (.mapFailure _ (kept_deleteBlob admits _)) fun _ =>
    .bind (.mapFailure _ (kept_deleteRecord admits _)) fun _ => .pure _

theorem kept_remove (id : Uuid) : (remove env id).Keeps frame :=
  .bind (kept_looking admits (keeps_locate env _)) fun _ =>
    .bind (kept_removeFile admits _) fun _ => .pure _

theorem kept_removeContents (policy : CascadePolicy) (files : List File) :
    (removeContents env policy files).Keeps frame :=
  removeContents_of_each (kept_deleteBlob admits) policy files

theorem kept_removeOfUser (policy : CascadePolicy) (user : Uuid) :
    (removeOfUser env policy user).Keeps frame :=
  .bind (.mapFailure _ (kept_looking admits (keeps_filesOfEntity env _ _))) fun _ =>
    .bind (kept_removeContents admits policy _) fun _ =>
      .mapFailure _ (kept_deleteRecordsOfEntity admits _ _)

end Removal

/-! ## Telling of events -/

theorem kept_handle
    (tells : ∀ state name event, frame.Allows state (state.noted (.handledFile name event)))
    (handler : FileHandler) (event : Event) : (handle env handler event).Keeps frame := by
  cases handler with
  | recorder name => exact .bind (.noting fun state => tells state name event) fun _ => .pure _
  | refuser failure => exact .throw _

section Events

variable (events : frame.AdmitsFileEvents)

include events

theorem kept_dispatch (id : Uuid) : (dispatch env id).Keeps frame :=
  events.keeps_dispatch (kept_handle events.tell) id

theorem kept_enqueue {ε : Type} (more : List Event) :
    (enqueue more : Act ε Unit).Keeps frame :=
  events.keeps_turn fun _ => Dispatcher.enqueue_handlers _ _ _

theorem kept_markPending {ε : Type} (file : File) :
    (markPending file : Act ε File).Keeps frame :=
  .bind (events.keeps_turn fun _ => Dispatcher.push_handlers _ _ _) fun _ => .pure _

include admits in
theorem kept_removeOfOwner (owner : Owner) (correlation : Uuid) :
    (removeOfOwner env owner correlation).Keeps frame :=
  .bind (kept_looking admits (keeps_locate env _)) fun _ => .bind (kept_markPending events _) fun _ =>
    .bind (.mapFailure _ (kept_dispatch events _)) fun _ =>
      .bind (kept_removeFile admits _) fun _ => .pure _

end Events

end Files

end Depot
