import Depot.Proofs.Files.Strategies

/-!
# What a removal takes away

A removal takes contents away before it takes away a record.  An attempt that fails has
removed some of the contents at most, and no record.  Without faults the contents of all
its files go, and a content that is not there counts as removed.
-/

set_option autoImplicit false

namespace Depot

open Files (File Catalogue)

/-- The contents without those at some paths. -/
def lacking (removed : List String) (content : String → Option Blobs.Content) :
    String → Option Blobs.Content :=
  fun path => if path ∈ removed then none else content path

theorem lacking_nil (content : String → Option Blobs.Content) : lacking [] content = content := by
  funext path
  simp [lacking]

theorem lacking_lacking (early late : List String) (content : String → Option Blobs.Content) :
    lacking late (lacking early content) = lacking (early ++ late) content := by
  funext path
  by_cases inEarly : path ∈ early
  · simp [lacking, inEarly]
  · simp [lacking, inEarly]

theorem lacking_absorbs {some all : List String} (among : ∀ path ∈ some, path ∈ all)
    (content : String → Option Blobs.Content) :
    lacking all (lacking some content) = lacking all content := by
  funext path
  by_cases inAll : path ∈ all
  · simp [lacking, inAll]
  · have inSome : path ∉ some := fun member => inAll (among path member)
    simp [lacking, inAll, inSome]

theorem lacking_erase (blobs : Blobs.Memory) (path : String) :
    (blobs.erase path).get? = lacking [path] blobs.get? := by
  rw [Blobs.Memory.get?_erase]
  funext other
  by_cases here : other = path
  · simp [lacking, here]
  · simp [lacking, here]

/-- Contents may go at some paths; the records and the handlers of files stay. -/
def Frame.emptying (paths : List String) : Frame where
  Allows before after := before.InMemory → after.InMemory ∧ after.files = before.files ∧
    after.fileEvents.handlers = before.fileEvents.handlers ∧
      ∃ removed, (∀ path ∈ removed, path ∈ paths) ∧
        after.content? = lacking removed before.content?
  stay state inMemory := ⟨inMemory, rfl, rfl, [], by simp, (lacking_nil _).symm⟩
  chain := by
    intro first second third early late inMemory
    obtain ⟨inMemory, files, handlers, sooner, among, contents⟩ := early inMemory
    obtain ⟨inMemory, files', handlers', later, among', contents'⟩ := late inMemory
    refine ⟨inMemory, files'.trans files, handlers'.trans handlers, sooner ++ later, ?_, ?_⟩
    · intro path member
      exact (List.mem_append.1 member).elim (among path) (among' path)
    · rw [contents', contents, lacking_lacking]

theorem Frame.emptying_of_same {paths : List String} {before after : State}
    (files : after.files = before.files) (blobs : after.blobs = before.blobs)
    (handlers : after.fileEvents.handlers = before.fileEvents.handlers) :
    (emptying paths).Allows before after := by
  rintro ⟨memory, inMemory⟩
  refine ⟨⟨memory, blobs.trans inMemory⟩, files, handlers, [], by simp, ?_⟩
  rw [lacking_nil, State.content?_of_blobs blobs]

theorem Frame.emptying_admits {paths : List String} : (emptying paths).AdmitsFileEvents where
  tell _ _ _ := emptying_of_same rfl rfl rfl
  turn _ _ handlers := emptying_of_same rfl rfl handlers

/-- Wherever the action fails, a frame allows what it has done until then. -/
def Act.FailsWithin {ε α : Type} (frame : Frame) (act : Act ε α) : Prop :=
  ∀ state failure after, act.runOn state = (.error failure, after) → frame.Allows state after

namespace Act.FailsWithin

variable {ε ε' α β : Type} {frame : Frame} {act : Act ε α} {next : α → Act ε β}

theorem bind_given (first : act.Keeps frame)
    (second : ∀ value state after, act.runOn state = (.ok value, after) →
      (next value).FailsWithin frame) : (act >>= next).FailsWithin frame := by
  intro state failure after ran
  rcases of_bind_error ran with failed | ⟨value, middle, ended, failed⟩
  · exact first.allows failed
  · exact frame.chain (first.allows ended) (second value state middle ended middle failure after failed)

theorem bind (first : act.Keeps frame) (second : ∀ value, (next value).FailsWithin frame) :
    (act >>= next).FailsWithin frame :=
  bind_given first fun value _ _ _ => second value

theorem bind_pure {answer : α → β} (fails : act.FailsWithin frame) :
    (act >>= fun value => Pure.pure (answer value)).FailsWithin frame := by
  intro state failure after ran
  rcases of_bind_error ran with failed | ⟨value, middle, -, bad⟩
  · exact fails state failure after failed
  · cases bad

theorem mapFailure {f : ε → ε'} (fails : act.FailsWithin frame) :
    (act.mapFailure f).FailsWithin frame := by
  intro state failure after ran
  obtain ⟨cause, failed, -⟩ := of_mapFailure_error ran
  exact fails state cause after failed

end Act.FailsWithin

/-! ## Attempts that fail -/

namespace Files

open Act

variable {env : Env} {paths : List String}

theorem empties_looking {ε α : Type} {act : Act ε α} (looks : act.Keeps .looking) :
    act.Keeps (.emptying paths) :=
  .of_looking (fun _ _ _ => Frame.emptying_of_same rfl rfl rfl) looks

theorem empties_deleteBlob {path : String} (among : path ∈ paths) :
    (deleteBlob env path).Keeps (.emptying paths) := by
  rintro state ⟨blobs, inMemory⟩
  rw [runOn_deleteBlob env inMemory]
  cases env.outside.backendFault (.deleteBlob path :: state.calls) with
  | some failure => exact Frame.emptying_of_same rfl rfl rfl ⟨blobs, inMemory⟩
  | none =>
    refine ⟨⟨_, rfl⟩, rfl, rfl, [path], by simpa using among, ?_⟩
    rw [State.content?_of_memory inMemory, ← lacking_erase]
    rfl

theorem empties_removeContents (policy : CascadePolicy) {files : List File}
    (among : ∀ file ∈ files, file.path.text ∈ paths) :
    (removeContents env policy files).Keeps (.emptying paths) := by
  induction files with
  | nil => exact .pure _
  | cons file rest ih =>
    have onward := ih fun other member => among other (.tail _ member)
    refine .bind (.outcome (empties_deleteBlob (among file (.head _)))) fun result => ?_
    cases result with
    | ok _ => exact onward
    | error failure =>
      dsimp only
      cases policy.continueOnItemFailure with
      | true => exact onward
      | false => exact .bind (.throw _) fun _ => onward

/-- What asks the records for a change that they cannot refuse has changed nothing where it fails. -/
theorem called_fails {α : Type} {call : Call} {act : Act Failure α} {value : State → α}
    {changed : State → State}
    (called : ∀ state, act.runOn state =
      match env.outside.recordFault (call :: state.calls) with
      | some failure => (.error failure, state.noted call)
      | none => (.ok (value state), changed state)) : act.FailsWithin (.emptying paths) := by
  intro state failure after ran
  rw [called] at ran
  cases fault : env.outside.recordFault (call :: state.calls) with
  | some cause =>
    rw [fault, Prod.mk.injEq] at ran
    obtain ⟨-, rfl⟩ := ran
    exact Frame.emptying_of_same rfl rfl rfl
  | none =>
    rw [fault] at ran
    cases ran

theorem deleteRecord_fails (id : Uuid) : (deleteRecord env id).FailsWithin (.emptying paths) :=
  called_fails (runOn_deleteRecord _ id)

theorem deleteRecordsOfEntity_fails (entityType entityId : String) :
    (deleteRecordsOfEntity env entityType entityId).FailsWithin (.emptying paths) :=
  called_fails (runOn_deleteRecordsOfEntity _ entityType entityId)

theorem removeFile_fails {file : File} (among : file.path.text ∈ paths) :
    (removeFile env file).FailsWithin (.emptying paths) :=
  .bind (.mapFailure _ (empties_deleteBlob among)) fun _ =>
    .bind_pure (.mapFailure (deleteRecord_fails file.id))

/-! ## Without faults -/

/-- The contents of some files have gone, and some records are left. -/
structure Emptied (before : State) (gone : List File) (files : Catalogue) (after : State) :
    Prop where
  files : after.files = files
  inMemory : after.InMemory
  content : after.content? = lacking (gone.map (·.path.text)) before.content?

variable {state : State}

theorem Emptied.since {before after : State} {gone : List File} {files : Catalogue}
    (emptied : Emptied state gone files after) (same : state.blobs = before.blobs) :
    Emptied before gone files after := by
  refine ⟨emptied.files, emptied.inMemory, ?_⟩
  rw [emptied.content, State.content?_of_blobs same]

/-- Where contents can be removed, they all are, whatever the policy. -/
theorem removeContents_ok (storage : env.outside.Reliable "storage") (policy : CascadePolicy)
    (files : List File) (inMemory : state.InMemory) :
    ∃ after, (removeContents env policy files).runOn state = (.ok (), after) ∧
      Emptied state files state.files after := by
  induction files generalizing state with
  | nil => exact ⟨state, rfl, rfl, inMemory, (lacking_nil _).symm⟩
  | cons file rest ih =>
    obtain ⟨blobs, inMemory⟩ := inMemory
    have first : (deleteBlob env file.path.text).runOn state =
        (.ok (), { state.noted (.deleteBlob file.path.text) with
          blobs := .memory (blobs.erase file.path.text) }) := by
      rw [runOn_deleteBlob env inMemory, storage.backend _ _ rfl]
    obtain ⟨after, others, emptied⟩ := @ih { state.noted (.deleteBlob file.path.text) with
      blobs := .memory (blobs.erase file.path.text) } ⟨_, rfl⟩
    refine ⟨after, ?_, emptied.files, emptied.inMemory, ?_⟩
    · rw [removeContents, runOn_bind, runOn_outcome, first]
      exact others
    · rw [emptied.content, State.content?_of_memory inMemory, List.map_cons, ← List.singleton_append,
        ← lacking_lacking, ← lacking_erase]
      rfl

theorem removeFile_ok (files : env.outside.Reliable "files")
    (storage : env.outside.Reliable "storage") (inMemory : state.InMemory) (file : File) :
    ∃ after, (removeFile env file).runOn state = (.ok (), after) ∧
      Emptied state [file] (state.files.erase file.id) after := by
  obtain ⟨blobs, inMemory⟩ := inMemory
  rw [runOn_removeFile files inMemory, storage.backend _ _ rfl]
  refine ⟨_, rfl, rfl, ⟨_, rfl⟩, ?_⟩
  rw [State.content?_of_memory inMemory, List.map_singleton, ← lacking_erase]
  rfl

theorem remove_ok (files : env.outside.Reliable "files")
    (storage : env.outside.Reliable "storage") (inMemory : state.InMemory) {id : Uuid}
    {file : File} (found : state.files.findById? id = some file) :
    ∃ after, (remove env id).runOn state = (.ok file, after) ∧
      Emptied state [file] (state.files.erase file.id) after := by
  have located : (locate env (.byId id)).runOn state =
      (.ok file, state.noted (.findFileById id)) := locate_present files found
  obtain ⟨after, removed, emptied⟩ := @removeFile_ok env (state.noted (.findFileById id)) files
    storage inMemory file
  refine ⟨after, ?_, emptied.files, emptied.inMemory, emptied.content⟩
  rw [remove, runOn_bind_ok located, runOn_bind_ok removed]
  rfl

theorem removeOfUser_ok (files : env.outside.Reliable "files")
    (storage : env.outside.Reliable "storage") (inMemory : state.InMemory)
    (policy : CascadePolicy) (user : Uuid) :
    ∃ after, (removeOfUser env policy user).runOn state =
        (.ok (state.files.countOfEntity userEntity user.text), after) ∧
      Emptied state (state.files.ofEntity userEntity user.text)
        (state.files.eraseOfEntity userEntity user.text) after := by
  have listed := question_reliable env files
    (rfl : (Call.findFilesOfEntity userEntity user.text).service? = _)
    (·.ofEntity userEntity user.text) state
  obtain ⟨middle, cleared, same, kept, contents⟩ := @removeContents_ok env
    (state.noted (.findFilesOfEntity userEntity user.text)) storage policy
    (state.files.ofEntity userEntity user.text) inMemory
  have erased := runOn_deleteRecordsOfEntity env userEntity user.text middle
  rw [files.record _ _ rfl, same] at erased
  have ended : (removeOfUser env policy user).runOn state =
      (.ok (state.files.countOfEntity userEntity user.text),
        { middle.noted (.deleteFilesOfEntity userEntity user.text) with
          files := state.files.eraseOfEntity userEntity user.text }) := by
    rw [removeOfUser, filesOfEntity, runOn_bind_ok listed, runOn_bind_ok cleared, onRecords]
    exact runOn_mapFailure_ok erased
  exact ⟨_, ended, rfl, kept, contents⟩

end Files

end Depot
