import Depot.Proofs.Files.Strategies

/-!
# How a swap may end

An upload that puts the new file in place before the old one goes may fail at any of its
calls, and its last two calls may fail without notice.  Every way in which it may end is
listed here, whatever fails, with the calls that were made and the records and contents
that are left.
-/

set_option autoImplicit false

namespace Depot

namespace Files

open Act

section Exchange

variable {env : Env} {request : UploadRequest} {made : Plan} {id : Uuid} {state after : State}
  {file old : File}

def Plan.storing (made : Plan) (request : UploadRequest) : Call :=
  .uploadBlob made.prepared.bytes ⟨made.path.text, made.prepared.mimeType, remarks request⟩

/-- How carrying out a plan may end when the new file comes first and an old one gives way:
with the calls that were made, the records and the contents. -/
inductive Exchange (env : Env) (stored : Call) (made : Plan) (file old : File) (state : State) :
    Except FileFailure (File × List Event) × State → Prop
  /-- The content is not taken. -/
  | refused {failure : FileFailure} {after : State} (calls : after.calls = stored :: state.calls)
    (fault : env.outside.backendFault after.calls ≠ none) (files : after.files = state.files)
    (content : after.content? = state.content?) :
    Exchange env stored made file old state (.error failure, after)
  /-- At the same place, the old record cannot be removed. -/
  | clung {failure : FileFailure} {after : State} (here : made.path = old.path)
    (well : env.outside.backendFault (stored :: state.calls) = none)
    (calls : after.calls = .deleteFile old.id :: stored :: state.calls)
    (fault : env.outside.recordFault after.calls ≠ none) (files : after.files = state.files)
    (content : after.content? =
      Function.update state.content? made.path.text (some made.content)) :
    Exchange env stored made file old state (.error failure, after)
  /-- At the same place, the old record is removed and the new one is not taken. -/
  | dropped {failure : FileFailure} {after : State} (here : made.path = old.path)
    (well : env.outside.backendFault (stored :: state.calls) = none)
    (calls : after.calls = .createFile file :: .deleteFile old.id :: stored :: state.calls)
    (removed : env.outside.recordFault (.deleteFile old.id :: stored :: state.calls) = none)
    (files : after.files = state.files.erase old.id)
    (content : after.content? =
      Function.update state.content? made.path.text (some made.content)) :
    Exchange env stored made file old state (.error failure, after)
  /-- At the same place, the new record follows on the old one. -/
  | renewed {after : State} (here : made.path = old.path)
    (calls : after.calls = .createFile file :: .deleteFile old.id :: stored :: state.calls)
    (files : (state.files.erase old.id).insert file = .ok after.files)
    (content : after.content? =
      Function.update state.content? made.path.text (some made.content)) :
    Exchange env stored made file old state (.ok (file.detached, file.uncommitted), after)
  /-- Elsewhere, the new record is not taken. -/
  | unrecorded {failure : FileFailure} {after : State} (elsewhere : made.path ≠ old.path)
    (files : after.files = state.files)
    (content : after.content? =
      Function.update state.content? made.path.text (some made.content)) :
    Exchange env stored made file old state (.error failure, after)
  /-- Elsewhere, the new file is there, and the old record and the old content have gone unless
  their removals have failed. -/
  | joined {after : State} {files : Catalogue} (elsewhere : made.path ≠ old.path)
    (calls : after.calls = .deleteBlob old.path.text :: .deleteFile old.id :: .createFile file ::
      stored :: state.calls)
    (inserted : state.files.insert file = .ok files)
    (record : (env.outside.recordFault
          (.deleteFile old.id :: .createFile file :: stored :: state.calls) ≠ none ∧
        after.files = files) ∨
      (env.outside.recordFault
          (.deleteFile old.id :: .createFile file :: stored :: state.calls) = none ∧
        after.files = files.erase old.id))
    (content : (env.outside.backendFault after.calls ≠ none ∧ after.content? =
        Function.update state.content? made.path.text (some made.content)) ∨
      (env.outside.backendFault after.calls = none ∧ after.content? = Function.update
        (Function.update state.content? made.path.text (some made.content)) old.path.text none)) :
    Exchange env stored made file old state (.ok (file.detached, file.uncommitted), after)

theorem deleteBlob_ends {blobs : Blobs.Memory} (inMemory : state.blobs = .memory blobs)
    {path : String} {result : Except BackendFailure Unit}
    (ran : (deleteBlob env path).runOn state = (result, after)) :
    after.calls = .deleteBlob path :: state.calls ∧ after.files = state.files ∧
      ((env.outside.backendFault after.calls ≠ none ∧ after.content? = state.content?) ∨
        env.outside.backendFault after.calls = none ∧
          after.content? = Function.update state.content? path none) := by
  rw [runOn_deleteBlob env inMemory] at ran
  cases fault : env.outside.backendFault (.deleteBlob path :: state.calls) with
  | some failure =>
    rw [fault, Prod.mk.injEq] at ran
    obtain ⟨rfl, rfl⟩ := ran
    refine ⟨rfl, rfl, .inl ⟨?_, rfl⟩⟩
    rw [State.noted_calls, fault]
    exact Option.some_ne_none failure
  | none =>
    rw [fault, Prod.mk.injEq] at ran
    obtain ⟨rfl, rfl⟩ := ran
    refine ⟨rfl, rfl, .inr ⟨fault, ?_⟩⟩
    rw [State.content?_of_memory rfl, State.content?_of_memory inMemory, Blobs.Memory.get?_erase]

/-- Carrying out a plan to replace a file, with the new one first, ends in one of these ways. -/
theorem exchange_carryOut (inMemory : state.InMemory) (existing : made.existing = some old) :
    Exchange env (made.storing request) made (made.file env request id) old state
      ((carryOut env .uploadThenSwap request id made).runOn state) := by
  obtain ⟨blobs, inMemory⟩ := inMemory
  rw [carryOut, existing]
  change Exchange _ _ _ _ _ _ ((storeContent env request made.path made.prepared >>= _).runOn state)
  refine bind_cases (fun failure stored ran => ?_) fun _ stored ran => ?_
  · obtain ⟨calls, files, ⟨_, -, fault, blobs'⟩ | ⟨bad, -⟩⟩ := storeContent_ends inMemory ran
    · exact .refused calls fault files (State.content?_of_blobs blobs')
    · cases bad
  obtain ⟨calls, files, ⟨_, bad, -⟩ | ⟨-, well, put⟩⟩ := storeContent_ends inMemory ran
  · cases bad
  have calls : stored.calls = made.storing request :: state.calls := calls
  rw [calls] at well
  have content := State.content?_put inMemory put
  rw [enter, swap]
  split_ifs with here
  · -- At the same place the old record goes before the new one comes.
    rw [bind_assoc]
    refine bind_cases (fun failure erased ran => ?_) fun _ erased ran => ?_
    · obtain ⟨cause, ran, -⟩ := of_mapFailure_error ran
      obtain ⟨called, blobs', ⟨_, -, fault, kept⟩ | ⟨⟨_, bad⟩, -⟩⟩ := deleteRecord_ends ran
      · exact .clung here well (called.trans (by rw [calls])) fault (kept.trans files)
          ((State.content?_of_blobs blobs').trans content)
      · cases bad
    obtain ⟨called, blobs', ⟨_, bad, -⟩ | ⟨-, removed, less⟩⟩ :=
      deleteRecord_ends (of_mapFailure_ok ran)
    · cases bad
    rw [called, calls] at removed
    rw [files] at less
    refine bind_cases (fun failure last ran => ?_) fun _ last ran => ?_
    · obtain ⟨cause, ran, -⟩ := of_mapFailure_error ran
      obtain ⟨called', blobs'', ⟨_, -, kept⟩ | ⟨bad, -⟩⟩ := createRecord_ends ran
      · exact .dropped here well (by rw [called', called, calls]) removed (kept.trans less)
          ((State.content?_of_blobs (blobs''.trans blobs')).trans content)
      · cases bad
    · obtain ⟨called', blobs'', more⟩ := createRecord_ok (of_mapFailure_ok ran)
      exact .renewed here (called'.trans (by rw [called, calls])) (less ▸ more)
        ((State.content?_of_blobs (blobs''.trans blobs')).trans content)
  · -- Elsewhere it goes last, and the end is the same whether or not it goes.
    rw [bind_assoc]
    refine bind_cases (fun failure created ran => ?_) fun _ created ran => ?_
    · obtain ⟨cause, ran, -⟩ := of_mapFailure_error ran
      obtain ⟨-, blobs', ⟨_, -, kept⟩ | ⟨bad, -⟩⟩ := createRecord_ends ran
      · exact .unrecorded here (kept.trans files) ((State.content?_of_blobs blobs').trans content)
      · cases bad
    obtain ⟨called, blobs', more⟩ := createRecord_ok (of_mapFailure_ok ran)
    rw [files] at more
    rw [bind_assoc]
    refine bind_cases (fun failure erased ran => ?_) fun _ erased ran => ?_
    · cases ran
    obtain ⟨called', blobs'', record⟩ := deleteRecord_ends (of_outcome_ok ran)
    rw [bind_assoc]
    refine bind_cases (fun failure last ran => ?_) fun _ last ran => ?_
    · cases ran
    obtain ⟨called'', files', contents⟩ :=
      deleteBlob_ends (blobs''.trans (blobs'.trans put)) (of_outcome_ok ran)
    rw [State.content?_of_blobs (blobs''.trans blobs'), content] at contents
    rw [called', called, calls] at record
    refine .joined here (called''.trans (by rw [called', called, calls])) more ?_ contents
    rcases record with ⟨_, -, fault, kept⟩ | ⟨-, well, less⟩
    · exact .inl ⟨fault, files'.trans kept⟩
    · exact .inr ⟨well, files'.trans less⟩

theorem added_ok (inMemory : state.InMemory) {taken : File × List Event}
    (ran : ((do
      storeContent env request made.path made.prepared
      onRecords (createRecord env (made.file env request id))
      return ((made.file env request id).detached, (made.file env request id).uncommitted) :
        Act FileFailure (File × List Event)).runOn state) = (.ok taken, after)) :
    taken = ((made.file env request id).detached, (made.file env request id).uncommitted) ∧
      after.calls = .createFile (made.file env request id) :: made.storing request :: state.calls ∧
      state.files.insert (made.file env request id) = .ok after.files ∧
      after.content? = Function.update state.content? made.path.text (some made.content) := by
  obtain ⟨blobs, inMemory⟩ := inMemory
  obtain ⟨_, stored, storing, rest⟩ := of_bind_ok ran
  obtain ⟨_, last, creating, ended⟩ := of_bind_ok rest
  rw [runOn_pure, Prod.mk.injEq, Except.ok.injEq] at ended
  obtain ⟨rfl, rfl⟩ := ended
  obtain ⟨calls, files, ⟨_, bad, -⟩ | ⟨-, -, put⟩⟩ := storeContent_ends inMemory storing
  · cases bad
  obtain ⟨called, blobs', more⟩ := createRecord_ok (of_mapFailure_ok creating)
  rw [files] at more
  exact ⟨rfl, by rw [called, calls]; rfl, more,
    (State.content?_of_blobs blobs').trans (State.content?_put inMemory put)⟩

end Exchange

end Files

end Depot
