import Depot.Proofs.Runs

/-!
# Either order of writing

An upload that replaces a file may remove the old one first, or put the new one in place
first and then remove the old one.  As long as neither store refuses a call, both orders
end alike: at the same place the new content takes the place of the old one, elsewhere
the removal of the one commutes with the storing of the other.
-/

set_option autoImplicit false

namespace Depot.Files

open Act

/-- Two runs end alike: with the same result, the same records in the same order, and the same
content at every path of the memory. -/
structure Alike {α : Type} (first second : Except FileFailure α × State) : Prop where
  result : first.1 = second.1
  files : first.2.files = second.2.files
  inMemory : first.2.InMemory ∧ second.2.InMemory
  content : first.2.content? = second.2.content?

theorem Alike.refl {α : Type} {ended : Except FileFailure α × State}
    (inMemory : ended.2.InMemory) : Alike ended ended :=
  ⟨rfl, rfl, ⟨inMemory, inMemory⟩, rfl⟩

section CarryOut

variable {env : Env} {state : State} {request : UploadRequest} {made : Plan} {id : Uuid}
  {old : File}

/-- The file of a plan has been entered in the place of an old one, whose content has gone
unless the new one lies at its path. -/
structure Replaced (made : Plan) (file old : File) (state : State)
    (ended : Except FileFailure (File × List Event) × State) : Prop where
  result : ended.1 = .ok (file.detached, file.uncommitted)
  files : ended.2.files = ⟨state.files.records.filter (·.id ≠ old.id) ++ [file.detached]⟩
  inMemory : ended.2.InMemory
  content : ended.2.content? = Function.update (Function.update state.content? old.path.text none)
    file.path.text (some made.content)

theorem Replaced.alike {file : File} {first second : Except FileFailure (File × List Event) × State}
    (one : Replaced made file old state first) (other : Replaced made file old state second) :
    Alike first second := by
  constructor
  · rw [one.result, other.result]
  · rw [one.files, other.files]
  · exact ⟨one.inMemory, other.inMemory⟩
  · rw [one.content, other.content]

/-! ## What the calls come to -/

theorem exists_removed (files : env.outside.Reliable "files")
    (storage : env.outside.Reliable "storage") {blobs : Blobs.Memory}
    (inMemory : state.blobs = .memory blobs) (ids : (state.files.records.map (·.id)).Nodup)
    (old : File) :
    ∃ removed, (removeFile env old).runOn state = (.ok (), removed) ∧
      removed.files = ⟨state.files.records.filter (·.id ≠ old.id)⟩ ∧
      removed.blobs = .memory (blobs.erase old.path.text) := by
  rw [runOn_removeFile files inMemory, storage.backend _ _ rfl]
  exact ⟨_, rfl, Catalogue.erase_eq_filter _ ids, rfl⟩

theorem exists_stored (storage : env.outside.Reliable "storage") {blobs : Blobs.Memory}
    (inMemory : state.blobs = .memory blobs) (request : UploadRequest) (made : Plan) :
    ∃ stored, (storeContent env request made.path made.prepared).runOn state = (.ok (), stored) ∧
      stored.files = state.files ∧
      stored.blobs = .memory (blobs.put made.path.text made.content) := by
  rw [storeContent, runOn_mapFailure, runOn_uploadBlob env inMemory, storage.backend _ _ rfl]
  exact ⟨_, rfl, rfl, rfl⟩

theorem exists_created (files : env.outside.Reliable "files") (file : File)
    (newId : ∀ other ∈ state.files.records, other.id ≠ file.id)
    (newPath : ∀ other ∈ state.files.records, other.path ≠ file.path) :
    ∃ created, (onRecords (createRecord env file)).runOn state = (.ok (), created) ∧
      created.files = ⟨state.files.records ++ [file.detached]⟩ ∧ created.blobs = state.blobs := by
  rw [onRecords, runOn_mapFailure, runOn_createRecord_fresh files newId newPath]
  exact ⟨_, rfl, rfl, rfl⟩

theorem exists_swapped (files : env.outside.Reliable "files")
    (storage : env.outside.Reliable "storage") {blobs : Blobs.Memory}
    (inMemory : state.blobs = .memory blobs) (ids : (state.files.records.map (·.id)).Nodup)
    (fits : made.Fits id state.files.records) (existing : made.existing = some old)
    (request : UploadRequest) :
    ∃ swapped, (swap env (made.file env request id) old).runOn state = (.ok (), swapped) ∧
      swapped.files = ⟨state.files.records.filter (·.id ≠ old.id) ++
        [(made.file env request id).detached]⟩ ∧
      swapped.blobs = .memory
        (if made.path = old.path then blobs else blobs.erase old.path.text) := by
  by_cases here : made.path = old.path
  · have ran := @runOn_swap_here env state old files (made.file env request id) here ids fits.fresh
      (fits.leaves existing)
    rw [ran, if_pos here]
    exact ⟨_, rfl, rfl, inMemory⟩
  · have vacant : ∀ other ∈ state.files.records, other.path ≠ made.path := by
      refine fits.vacant fun other same => ?_
      rw [existing, Option.some.injEq] at same
      exact same ▸ Ne.symm here
    have another : id ≠ old.id := Ne.symm (fits.fresh old (fits.existing old existing))
    have ran := @runOn_swap_elsewhere env state old files (made.file env request id) blobs inMemory
      here ids fits.fresh vacant another
    dsimp only at ran
    rw [storage.backend _ _ rfl] at ran
    rw [ran, if_neg here]
    exact ⟨_, rfl, rfl, rfl⟩

/-! ## Both orders -/

theorem replaced_early (files : env.outside.Reliable "files")
    (storage : env.outside.Reliable "storage") (inMemory : state.InMemory)
    (ids : (state.files.records.map (·.id)).Nodup) (fits : made.Fits id state.files.records)
    (existing : made.existing = some old) :
    Replaced made (made.file env request id) old state
      ((carryOut env .deleteThenUpload request id made).runOn state) := by
  obtain ⟨blobs, inMemory⟩ := inMemory
  obtain ⟨removed, first, less, without⟩ := exists_removed files storage inMemory ids old
  obtain ⟨stored, second, kept, contents⟩ := exists_stored storage without request made
  have fresh : ∀ other ∈ stored.files.records, other.id ≠ id := by
    intro other member
    rw [kept, less] at member
    exact fits.fresh other (List.mem_filter.1 member).1
  have vacant : ∀ other ∈ stored.files.records, other.path ≠ made.path := by
    rw [kept, less]
    exact fits.leaves existing
  obtain ⟨last, third, more, same⟩ :=
    exists_created files (made.file env request id) fresh vacant
  have ended : (carryOut env .deleteThenUpload request id made).runOn state = (.ok
      ((made.file env request id).detached, (made.file env request id).uncommitted), last) := by
    rw [carryOut, existing]
    exact (runOn_bind_ok first).trans ((runOn_bind_ok second).trans (runOn_bind_ok third))
  rw [ended]
  constructor
  · rfl
  · rw [more, kept, less]
  · exact ⟨_, same.trans contents⟩
  · rw [State.content?_of_memory (same.trans contents), State.content?_of_memory inMemory,
      Blobs.Memory.get?_put, Blobs.Memory.get?_erase]
    rfl

theorem replaced_late (files : env.outside.Reliable "files")
    (storage : env.outside.Reliable "storage") (inMemory : state.InMemory)
    (ids : (state.files.records.map (·.id)).Nodup) (fits : made.Fits id state.files.records)
    (existing : made.existing = some old) :
    Replaced made (made.file env request id) old state
      ((carryOut env .uploadThenSwap request id made).runOn state) := by
  obtain ⟨blobs, inMemory⟩ := inMemory
  obtain ⟨stored, first, kept, contents⟩ := exists_stored storage inMemory request made
  obtain ⟨last, second, more, left⟩ := exists_swapped files storage contents (kept ▸ ids)
    (kept ▸ fits) existing request
  have ended : (carryOut env .uploadThenSwap request id made).runOn state = (.ok
      ((made.file env request id).detached, (made.file env request id).uncommitted), last) := by
    rw [carryOut, existing]
    exact (runOn_bind_ok first).trans (runOn_bind_ok second)
  rw [ended]
  constructor
  · rfl
  · rw [more, kept]
  · exact ⟨_, left⟩
  · rw [State.content?_of_memory left, State.content?_of_memory inMemory]
    by_cases here : made.path = old.path
    · have text : old.path.text = (made.file env request id).path.text :=
        congrArg Path.text here.symm
      rw [if_pos here, Blobs.Memory.get?_put, text, Function.update_idem]
      rfl
    · have elsewhere : made.path.text ≠ old.path.text := fun same => here (Path.text_injective same)
      rw [if_neg here, Blobs.Memory.get?_erase, Blobs.Memory.get?_put,
        Function.update_comm elsewhere]
      rfl

theorem carryOut_of_none (nobody : made.existing = none) :
    carryOut env .deleteThenUpload request id made =
      carryOut env .uploadThenSwap request id made := by
  rw [carryOut, carryOut, nobody]
  rfl

theorem carryOut_alike (files : env.outside.Reliable "files")
    (storage : env.outside.Reliable "storage") (inMemory : state.InMemory)
    (ids : (state.files.records.map (·.id)).Nodup) (fits : made.Fits id state.files.records) :
    Alike ((carryOut env .deleteThenUpload request id made).runOn state)
      ((carryOut env .uploadThenSwap request id made).runOn state) := by
  cases existing : made.existing with
  | some old =>
    exact (replaced_early files storage inMemory ids fits existing).alike
      (replaced_late files storage inMemory ids fits existing)
  | none =>
    have files := @keeps_carryOut env (fun _ => True) .uploadThenSwap request id trivial made
    rw [carryOut_of_none existing]
    exact .refl ((files state).1.1 inMemory)

end CarryOut

def noteEnv : Env := ⟨⟨1, 0⟩, ⟨"", ""⟩, .plain⟩

def noteRequest (filename : String) : UploadRequest where
  owner := ⟨"user", "tenant", "note"⟩
  filename
  bytes := filename.toUTF8
  environment := "test"

def noteStored : State where
  files := ⟨[{
    id := .ofNat 1
    owner := ⟨"user", "tenant", "note"⟩
    filename := "note.txt"
    path := ⟨"test", 1970, 1, "user", "tenant", "note.txt", by decide⟩
    metadata := ⟨"text/plain", 0, none, none⟩
    createdAt := ⟨0, 0⟩
    updatedAt := ⟨0, 0⟩ }]⟩
  blobs := .memory ⟨[("test/1970/01/user/tenant/note.txt", ⟨.empty, "text/plain"⟩)]⟩

/-- Where neither store refuses a call, both orders of writing end alike. -/
theorem upload_alike {env : Env} (files : env.outside.Reliable "files")
    (storage : env.outside.Reliable "storage") {state : State} (inMemory : state.InMemory)
    (ids : (state.files.records.map (·.id)).Nodup)
    (paths : (state.files.records.map (·.path)).Nodup) (request : UploadRequest) {id : Uuid}
    (fresh : ∀ other ∈ state.files.records, other.id ≠ id) :
    Alike ((upload env .deleteThenUpload request id).runOn state)
      ((upload env .uploadThenSwap request id).runOn state) := by
  rw [upload_eq, upload_eq, runOn_bind, runOn_bind]
  cases planned : (plan env request).runOn state with
  | mk result middle =>
    have spared := spared_of_run (keeps_plan env request).spares planned
    have kept := Frame.inMemory_of_sparing spared inMemory
    cases result with
    | error failure => exact .refl kept
    | ok made =>
      have same : middle.files = state.files := spared.1.1
      exact carryOut_alike files storage kept (same ▸ ids)
        (same ▸ plan_fits ids paths fresh planned)

/-- The note of a user is stored anew under the same name, and then under another one. -/
theorem upload_alike_note :
    ((upload noteEnv .uploadThenSwap (noteRequest "note.txt") (.ofNat 2)).runOn
        noteStored).2.files.records.map (·.id) = [.ofNat 2] ∧
      Alike ((upload noteEnv .deleteThenUpload (noteRequest "note.txt") (.ofNat 2)).runOn noteStored)
        ((upload noteEnv .uploadThenSwap (noteRequest "note.txt") (.ofNat 2)).runOn noteStored) ∧
      Alike ((upload noteEnv .deleteThenUpload (noteRequest "new.txt") (.ofNat 2)).runOn noteStored)
        ((upload noteEnv .uploadThenSwap (noteRequest "new.txt") (.ofNat 2)).runOn noteStored) := by
  have alike (filename : String) := @upload_alike noteEnv (Outside.plain_reliable "files")
    (Outside.plain_reliable "storage") noteStored ⟨_, rfl⟩ (by simp [noteStored])
    (by simp [noteStored]) (noteRequest filename) (.ofNat 2) (by decide)
  exact ⟨by decide +kernel, alike _, alike _⟩

end Depot.Files
