import Depot.Accounts.Deletion
import Depot.Files.Upload
import Depot.Proofs.Act
import Depot.Trace

/-!
# What calls do

Every call is noted.  Those that only look leave it at that; the others change one
store if they do not fail.  Which of them fail is up to the outside, so that what a
sequence of calls does can be told for any faults, or for services that have none.
-/

set_option autoImplicit false

namespace Depot

def State.noted (state : State) (call : Call) : State :=
  { state with calls := call :: state.calls }

@[simp] theorem State.noted_files (state : State) (call : Call) :
    (state.noted call).files = state.files := rfl

@[simp] theorem State.noted_users (state : State) (call : Call) :
    (state.noted call).users = state.users := rfl

@[simp] theorem State.noted_calls (state : State) (call : Call) :
    (state.noted call).calls = call :: state.calls := rfl

namespace Call

def service? (call : Call) : Option String := call.target?.map (·.1)

/-- Whether a call changes no store of records, changes no contents and tells no handler. -/
def looks : Call → Bool
  | createUser _ | updateUser _ | deleteUser _ => false
  | createFile _ | updateFile _ | deleteFile _ | deleteFilesOfEntity .. => false
  | uploadBlob .. | deleteBlob _ | copyBlob .. => false
  | handledAccount .. | handledFile .. => false
  | _ => true

/-- Whether a call makes a file record or hands over a content. -/
def stores : Call → Bool
  | createFile _ | uploadBlob .. => true
  | _ => false

theorem not_stores_of_looks {call : Call} (looks : call.looks = true) : call.stores = false := by
  cases call <;> first | rfl | contradiction

end Call

/-- No call to a service fails, whatever has been called before. -/
def Outside.Reliable (outside : Outside) (service : String) : Prop :=
  ∀ call earlier, call.service? = some service →
    outside.recordFault (call :: earlier) = none ∧ outside.backendFault (call :: earlier) = none

theorem Outside.Reliable.record {outside : Outside} {service : String}
    (reliable : outside.Reliable service) (call : Call) (earlier : List Call)
    (goes : call.service? = some service) : outside.recordFault (call :: earlier) = none :=
  (reliable call earlier goes).1

theorem Outside.Reliable.backend {outside : Outside} {service : String}
    (reliable : outside.Reliable service) (call : Call) (earlier : List Call)
    (goes : call.service? = some service) : outside.backendFault (call :: earlier) = none :=
  (reliable call earlier goes).2

/-- No question to a store of records fails, whatever has been called before. -/
def Outside.Answers (outside : Outside) (service : String) : Prop :=
  ∀ call earlier, call.service? = some service → call.looks = true →
    outside.recordFault (call :: earlier) = none

theorem Outside.Reliable.answers {outside : Outside} {service : String}
    (reliable : outside.Reliable service) : outside.Answers service :=
  fun call earlier goes _ => reliable.record call earlier goes

/-! ## What has been called in between -/

/-- At some call between two points, this held of the calls made until then. -/
def Passed (before after : List Call) (point : List Call → Prop) : Prop :=
  ∃ call earlier, call :: earlier <:+ after ∧ before <:+ earlier ∧ point (call :: earlier)

section Passed

variable {before calls added : List Call} {point : List Call → Prop}

theorem not_passed_refl : ¬ Passed before before point := by
  rintro ⟨call, earlier, called, since, -⟩
  have shorter := called.length_le
  have longer := since.length_le
  rw [List.length_cons] at shorter
  omega

theorem passed_cons {call : Call} (since : before <:+ calls) :
    Passed before (call :: calls) point ↔ point (call :: calls) ∨ Passed before calls point := by
  constructor
  · rintro ⟨other, earlier, called, start, here⟩
    rcases List.suffix_cons_iff.1 called with whole | part
    · exact .inl (whole ▸ here)
    · exact .inr ⟨other, earlier, part, start, here⟩
  · rintro (here | ⟨other, earlier, called, start, there⟩)
    · exact ⟨call, calls, List.suffix_rfl, since, here⟩
    · exact ⟨other, earlier, called.trans (List.suffix_cons _ _), start, there⟩

theorem not_passed_append
    (spares : ∀ call ∈ added, ∀ earlier, ¬ point (call :: earlier)) :
    ¬ Passed before (added ++ before) point := by
  induction added with
  | nil => exact not_passed_refl
  | cons call rest ih =>
    rw [List.cons_append, passed_cons (List.suffix_append _ _), not_or]
    exact ⟨spares call (.head _) _, ih fun other member => spares other (.tail _ member)⟩

end Passed

/-! ## Frames -/

namespace Frame

/-- Nothing but calls that look is added to what has been called. -/
def looking : Frame where
  Allows before after := ∃ added, after = { before with calls := added ++ before.calls } ∧
    ∀ call ∈ added, call.looks = true
  stay state := ⟨[], rfl, by simp⟩
  chain := by
    rintro first second third ⟨early, rfl, earlyLooks⟩ ⟨late, rfl, lateLooks⟩
    refine ⟨late ++ early, by simp, fun call member => ?_⟩
    rcases List.mem_append.1 member with member | member
    · exact lateLooks call member
    · exact earlyLooks call member

/-- The file records and the contents stay, and no call asks to store any. -/
def sparingFiles : Frame where
  Allows before after := after.files = before.files ∧ after.blobs = before.blobs ∧
    ∃ added, after.calls = added ++ before.calls ∧ ∀ call ∈ added, call.stores = false
  stay state := ⟨rfl, rfl, [], rfl, by simp⟩
  chain := by
    rintro first second third ⟨files, blobs, early, earlyCalls, earlySpares⟩
      ⟨files', blobs', late, lateCalls, lateSpares⟩
    refine ⟨files'.trans files, blobs'.trans blobs, late ++ early, ?_, fun call member => ?_⟩
    · rw [lateCalls, earlyCalls, List.append_assoc]
    · rcases List.mem_append.1 member with member | member
      · exact lateSpares call member
      · exact earlySpares call member

/-- The users stay, and so do the handlers and waiting events of accounts. -/
def sparingAccounts : Frame where
  Allows before after :=
    after.users = before.users ∧ after.accountEvents = before.accountEvents
  stay _ := ⟨rfl, rfl⟩
  chain first second := ⟨second.1.trans first.1, second.2.trans first.2⟩

theorem sparingFiles_of_looking {before after : State} (looked : looking.Allows before after) :
    sparingFiles.Allows before after := by
  obtain ⟨added, rfl, looks⟩ := looked
  exact ⟨rfl, rfl, added, rfl, fun call member => Call.not_stores_of_looks (looks call member)⟩

theorem sparingAccounts_of_looking {before after : State}
    (looked : looking.Allows before after) : sparingAccounts.Allows before after := by
  obtain ⟨added, rfl, -⟩ := looked
  exact ⟨rfl, rfl⟩

end Frame

namespace Act

variable {ε α : Type} {act : Act ε α}

theorem Keeps.noteLooking {fault : List Call → Option ε} {call : Call}
    (looks : call.looks = true) : (note fault call).Keeps .looking :=
  .noting fun _ => ⟨[call], rfl, by simpa using looks⟩

theorem Keeps.called (looks : act.Keeps .looking) {state after : State} {result : Except ε α}
    (ran : act.runOn state = (result, after)) : state.calls <:+ after.calls := by
  obtain ⟨added, rfl, -⟩ := looks.allows ran
  exact List.suffix_append _ _

/-- A frame that admits every call that looks admits any number of them. -/
theorem Keeps.of_looking {frame : Frame}
    (notes : ∀ state call, call.looks = true → frame.Allows state (state.noted call))
    (looks : act.Keeps .looking) : act.Keeps frame := by
  intro state
  obtain ⟨added, moved, looked⟩ := looks state
  rw [moved]
  clear moved
  induction added with
  | nil => exact frame.stay state
  | cons call rest ih =>
    have earlier := ih fun other member => looked other (.tail _ member)
    exact frame.chain earlier (notes _ call (looked call (.head _)))

end Act

theorem Call.isSome_service? {call : Call} (looks : call.looks = true) : call.service?.isSome := by
  cases call <;> first | rfl | contradiction

section Records

open Act

variable (env : Env)

theorem keeps_callRecords {call : Call} (looks : call.looks = true) :
    (env.callRecords call).Keeps .looking :=
  .bind (.noteLooking looks) fun _ => .pure _

theorem runOn_callRecords (call : Call) (state : State) :
    (env.callRecords call).runOn state =
      (match env.outside.recordFault (call :: state.calls) with
        | some failure => .error failure
        | none => .ok (),
      state.noted call) := by
  rw [Env.callRecords, runOn_bind, runOn_note]
  cases env.outside.recordFault (call :: state.calls) <;> rfl

theorem keeps_question {σ α : Type} {call : Call} (looks : call.looks = true)
    {reading : Act Failure σ} (reads : reading.Keeps .looking) (answer : σ → α) :
    (do env.callRecords call; return answer (← reading) : Act Failure α).Keeps .looking :=
  .bind (keeps_callRecords env looks) fun _ => .bind reads fun _ => .pure _

end Records

/-! ## Looking at file records, contents and pictures -/

namespace Files

open Act

variable (env : Env)

theorem keeps_catalogue : catalogue.Keeps .looking := .bind .getThe fun _ => .pure _

theorem keeps_fileById (id : Uuid) : (fileById env id).Keeps .looking :=
  keeps_question env rfl keeps_catalogue (·.findById? id)

theorem keeps_fileByPath (path : String) : (fileByPath env path).Keeps .looking :=
  keeps_question env rfl keeps_catalogue (·.findByPath? path)

theorem keeps_filesOfEntity (entityType entityId : String) :
    (filesOfEntity env entityType entityId).Keeps .looking :=
  keeps_question env rfl keeps_catalogue (·.ofEntity entityType entityId)

theorem keeps_currentFile (owner : Owner) : (currentFile env owner).Keeps .looking :=
  keeps_question env rfl keeps_catalogue (·.current? owner)

theorem keeps_notedService {call : Call} (looks : call.looks = true) :
    (notedService env call).Keeps .looking := .noteLooking looks

theorem keeps_detectType (bytes : ByteArray) : (detectType env bytes).Keeps .looking :=
  .bind (keeps_notedService env rfl) fun _ => .pure _

theorem keeps_measurePicture (bytes : ByteArray) : (measurePicture env bytes).Keeps .looking :=
  .bind (keeps_notedService env rfl) fun _ => .pure _

theorem keeps_transformPicture (bytes : ByteArray) (request : Pictures.Transform) :
    (transformPicture env bytes request).Keeps .looking :=
  .bind (keeps_notedService env rfl) fun _ => .ofExcept _

theorem keeps_signedUrl (path : String) (minutes : Nat) :
    (signedUrl env path minutes).Keeps .looking :=
  .bind (keeps_notedService env rfl) fun _ => .bind .getThe fun _ => .ofExcept _

/-! ## What answers and changes come to -/

theorem runOn_catalogue (state : State) :
    catalogue.runOn state = (.ok state.files, state) := rfl

theorem runOn_storeCatalogue (result : Except Failure Catalogue) (state : State) :
    (storeCatalogue result).runOn state =
      match result with
      | .ok files => (.ok (), { state with files })
      | .error failure => (.error failure, state) := by
  cases result <;> rfl

theorem runOn_question {α : Type} (call : Call) (answer : Catalogue → α) (state : State) :
    (do env.callRecords call; return answer (← catalogue) : Act Failure α).runOn state =
      (match env.outside.recordFault (call :: state.calls) with
        | some failure => .error failure
        | none => .ok (answer state.files),
      state.noted call) := by
  rw [runOn_bind, runOn_callRecords]
  cases env.outside.recordFault (call :: state.calls) <;> rfl

theorem question_answered {α : Type} {call : Call} {state : State}
    (well : env.outside.recordFault (call :: state.calls) = none) (answer : Catalogue → α) :
    (onRecords (do env.callRecords call; return answer (← catalogue))).runOn state =
      (.ok (answer state.files), state.noted call) := by
  rw [onRecords, runOn_mapFailure, runOn_question, well]
  rfl

theorem question_reliable {α : Type} (reliable : env.outside.Reliable "files") {call : Call}
    (goes : call.service? = some "files") (answer : Catalogue → α) (state : State) :
    (onRecords (do env.callRecords call; return answer (← catalogue))).runOn state =
      (.ok (answer state.files), state.noted call) :=
  question_answered env (reliable.record call _ goes) answer

theorem question_ok {α : Type} {call : Call} {answer : Catalogue → α} {state after : State}
    {value : α}
    (ran : (do env.callRecords call; return answer (← catalogue) : Act Failure α).runOn state =
      (.ok value, after)) : value = answer state.files := by
  rw [runOn_question] at ran
  cases fault : env.outside.recordFault (call :: state.calls) with
  | some failure => simp [fault] at ran
  | none => simpa [fault, eq_comm] using congrArg Prod.fst ran

theorem runOn_write (call : Call) (change : Catalogue → Except Failure Catalogue) (state : State) :
    (do env.callRecords call; storeCatalogue (change (← catalogue)) : Act Failure Unit).runOn state =
      match env.outside.recordFault (call :: state.calls) with
      | some failure => (.error failure, state.noted call)
      | none =>
        match change state.files with
        | .error failure => (.error failure, state.noted call)
        | .ok files => (.ok (), { state.noted call with files }) := by
  rw [runOn_bind, runOn_callRecords]
  cases env.outside.recordFault (call :: state.calls) with
  | some failure => rfl
  | none =>
    cases changed : change state.files <;>
      simp only [runOn_bind, runOn_catalogue, runOn_storeCatalogue, State.noted_files, changed]

theorem runOn_createRecord (file : File) (state : State) :
    (createRecord env file).runOn state =
      match env.outside.recordFault (.createFile file :: state.calls) with
      | some failure => (.error failure, state.noted (.createFile file))
      | none =>
        match state.files.insert file with
        | .error failure => (.error failure, state.noted (.createFile file))
        | .ok files => (.ok (), { state.noted (.createFile file) with files }) :=
  runOn_write env _ (·.insert file) state

theorem runOn_deleteRecord (id : Uuid) (state : State) :
    (deleteRecord env id).runOn state =
      match env.outside.recordFault (.deleteFile id :: state.calls) with
      | some failure => (.error failure, state.noted (.deleteFile id))
      | none => (.ok (state.files.findById? id),
          { state.noted (.deleteFile id) with files := state.files.erase id }) := by
  rw [deleteRecord, runOn_bind, runOn_callRecords]
  cases env.outside.recordFault (.deleteFile id :: state.calls) with
  | some failure => rfl
  | none =>
    simp only [runOn_bind, runOn_catalogue, runOn_storeCatalogue, State.noted_files, runOn_pure]

section Endings

variable {env} {state after : State} {id : Uuid}

theorem createRecord_ends {file : File} {result : Except Failure Unit}
    (ran : (createRecord env file).runOn state = (result, after)) :
    after.calls = .createFile file :: state.calls ∧ after.blobs = state.blobs ∧
      ((∃ failure, result = .error failure ∧ after.files = state.files) ∨
        result = .ok () ∧ state.files.insert file = .ok after.files) := by
  rw [runOn_createRecord] at ran
  cases fault : env.outside.recordFault (.createFile file :: state.calls) with
  | some failure =>
    rw [fault, Prod.mk.injEq] at ran
    obtain ⟨rfl, rfl⟩ := ran
    exact ⟨rfl, rfl, .inl ⟨_, rfl, rfl⟩⟩
  | none =>
    rw [fault] at ran
    cases inserted : state.files.insert file with
    | error failure =>
      rw [inserted, Prod.mk.injEq] at ran
      obtain ⟨rfl, rfl⟩ := ran
      exact ⟨rfl, rfl, .inl ⟨_, rfl, rfl⟩⟩
    | ok files =>
      rw [inserted, Prod.mk.injEq] at ran
      obtain ⟨rfl, rfl⟩ := ran
      exact ⟨rfl, rfl, .inr ⟨rfl, rfl⟩⟩

theorem createRecord_ok {file : File}
    (ran : (createRecord env file).runOn state = (.ok (), after)) :
    after.calls = .createFile file :: state.calls ∧ after.blobs = state.blobs ∧
      state.files.insert file = .ok after.files := by
  obtain ⟨calls, blobs, ⟨_, bad, -⟩ | ⟨-, inserted⟩⟩ := createRecord_ends ran
  · cases bad
  · exact ⟨calls, blobs, inserted⟩

theorem deleteRecord_ends {result : Except Failure (Option File)}
    (ran : (deleteRecord env id).runOn state = (result, after)) :
    after.calls = .deleteFile id :: state.calls ∧ after.blobs = state.blobs ∧
      ((∃ failure, result = .error failure ∧ env.outside.recordFault after.calls ≠ none ∧
          after.files = state.files) ∨
        (∃ found, result = .ok found) ∧ env.outside.recordFault after.calls = none ∧
          after.files = state.files.erase id) := by
  rw [runOn_deleteRecord] at ran
  cases fault : env.outside.recordFault (.deleteFile id :: state.calls) with
  | some failure =>
    rw [fault, Prod.mk.injEq] at ran
    obtain ⟨rfl, rfl⟩ := ran
    refine ⟨rfl, rfl, .inl ⟨_, rfl, ?_, rfl⟩⟩
    rw [State.noted_calls, fault]
    exact Option.some_ne_none failure
  | none =>
    rw [fault, Prod.mk.injEq] at ran
    obtain ⟨rfl, rfl⟩ := ran
    exact ⟨rfl, rfl, .inr ⟨⟨_, rfl⟩, fault, rfl⟩⟩

end Endings

theorem runOn_deleteRecordsOfEntity (entityType entityId : String) (state : State) :
    (deleteRecordsOfEntity env entityType entityId).runOn state =
      match env.outside.recordFault (.deleteFilesOfEntity entityType entityId :: state.calls) with
      | some failure => (.error failure, state.noted (.deleteFilesOfEntity entityType entityId))
      | none => (.ok (state.files.countOfEntity entityType entityId),
          { state.noted (.deleteFilesOfEntity entityType entityId) with
            files := state.files.eraseOfEntity entityType entityId }) := by
  rw [deleteRecordsOfEntity, runOn_bind, runOn_callRecords]
  cases env.outside.recordFault (.deleteFilesOfEntity entityType entityId :: state.calls) with
  | some failure => rfl
  | none =>
    simp only [runOn_bind, runOn_catalogue, runOn_storeCatalogue, State.noted_files, runOn_pure]

theorem runOn_changeBlobs (call : Call)
    (change : Blobs.Store → Except BackendFailure Unit × Blobs.Store) (state : State) :
    (changeBlobs env call change).runOn state =
      match env.outside.backendFault (call :: state.calls) with
      | some failure => (.error failure, state.noted call)
      | none => ((change state.blobs).1,
          { state.noted call with blobs := (change state.blobs).2 }) := by
  rw [changeBlobs, runOn_bind, notedService, runOn_note]
  cases env.outside.backendFault (call :: state.calls) <;> rfl

variable {env} in
theorem files_changeBlobs (call : Call)
    (change : Blobs.Store → Except BackendFailure Unit × Blobs.Store) (state : State) :
    ((changeBlobs env call change).runOn state).2.files = state.files := by
  rw [runOn_changeBlobs]
  cases env.outside.backendFault (call :: state.calls) <;> rfl

section Memory

variable {blobs : Blobs.Memory} {state : State}

theorem runOn_uploadBlob (inMemory : state.blobs = .memory blobs) (bytes : ByteArray)
    (target : UploadTarget) :
    (uploadBlob env bytes target).runOn state =
      match env.outside.backendFault (.uploadBlob bytes target :: state.calls) with
      | some failure => (.error failure, state.noted (.uploadBlob bytes target))
      | none => (.ok (), { state.noted (.uploadBlob bytes target) with
          blobs := .memory (blobs.put target.path ⟨bytes, target.mimeType⟩) }) := by
  rw [uploadBlob, runOn_changeBlobs, inMemory]
  rfl

theorem runOn_deleteBlob (inMemory : state.blobs = .memory blobs) (path : String) :
    (deleteBlob env path).runOn state =
      match env.outside.backendFault (.deleteBlob path :: state.calls) with
      | some failure => (.error failure, state.noted (.deleteBlob path))
      | none => (.ok (), { state.noted (.deleteBlob path) with
          blobs := .memory (blobs.erase path) }) := by
  rw [deleteBlob, runOn_changeBlobs, inMemory]
  rfl

end Memory

end Files

end Depot
