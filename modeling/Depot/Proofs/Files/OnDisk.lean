import Depot.Proofs.Blobs.Refinement
import Depot.Proofs.Files.Current

/-!
# Files on disk

A file is stored on disk if its record is found, by its identifier and by its path, and its
content can be read.  A file that has been uploaded is stored, unless the swap that entered it
removed the content of another file whose path leads to the same place of the disk.
-/

set_option autoImplicit false

namespace Depot

namespace Blobs.Disk

variable {disk : Disk} {path other : String} {bytes : ByteArray}

theorem read_upload (stored : (disk.upload path bytes).1 = .ok ()) :
    (disk.upload path bytes).2.read path = .ok (some bytes) := by
  obtain ⟨⟨plain, filed⟩, grown, growth, paved, after⟩ := upload_ok stored
  have below := names_ne_nil plain
  have ways : (grown.set (names path) (.file bytes)).Paved (names path).dropLast := by
    intro front some part
    have higher : front ≠ names path := by
      rintro rfl
      exact not_isPrefix_dropLast below part
    rw [node?_set below, Function.update_of_ne higher]
    exact paved front some part
  rw [after]
  apply (read_file plain _).1
  rw [find_filed (growth.root ▸ filed) ways, ← names_eq, node?_set below, Function.update_self]

theorem placeToRemove_node {steps place : List String}
    (placed : disk.placeToRemove steps = .ok place) : ∃ bytes, disk.node? place = some (.file bytes) := by
  rw [placeToRemove_eq] at placed
  cases approached : disk.approach steps with
  | error fault => simp [approached, bind, Except.bind] at placed
  | ok above =>
    simp only [approached, bind, Except.bind] at placed
    cases idle : isIdle (route steps).last with
    | true => simp [idle] at placed
    | false =>
      cases looked : disk.look above (route steps).last with
      | error fault => simp [idle, looked] at placed
      | ok node =>
        cases node with
        | directory => simp [idle, looked] at placed
        | file bytes =>
          cases closed : (route steps).closed with
          | true => simp [idle, looked, closed] at placed
          | false =>
            have here : above ++ [(route steps).last] = place := by
              simpa [idle, looked, closed, pure, Except.pure] using placed
            rw [← here]
            exact ⟨bytes, (look_ok looked).2⟩

theorem read_delete (there : disk.read path = .ok (some bytes)) (apart : names other ≠ names path) :
    (disk.delete other).2.read path = .ok (some bytes) := by
  obtain ⟨plain, found⟩ := read_some there
  obtain ⟨-, paved, node, filed⟩ := find_ok found
  unfold delete
  split_ifs with accepted
  · cases placed : disk.placeToRemove (Text.segments other) with
    | error fault => cases fault <;> exact there
    | ok place =>
      obtain ⟨gone, file⟩ := placeToRemove_node placed
      obtain ⟨-, rfl⟩ := placeToRemove_ok placed
      rw [← names_eq] at file
      have below := names_ne_nil accepted
      have ways : (disk.clear (names other)).Paved (names path).dropLast := by
        intro front some part
        have elsewhere : front ≠ names other := by
          rintro rfl
          rw [paved _ some part] at file
          cases file
        rw [node?_clear below, Function.update_of_ne elsewhere]
        exact paved front some part
      have fits : Filed (disk.clear (names other)).rootLength (Text.segments path) := filed bytes rfl
      apply (read_file plain _).1
      rw [← names_eq other, find_filed fits ways, ← names_eq path, node?_clear below,
        Function.update_of_ne (Ne.symm apart), names_eq path, node]
  · exact there

end Blobs.Disk

/-- A file is stored on disk: its record and its content are there. -/
structure State.Stores (state : State) (file : Files.File) (bytes : ByteArray) : Prop where
  byId : state.files.findById? file.id = some file
  byPath : state.files.findByPath? file.path.text = some file
  content : ∃ tree, state.blobs = .disk tree ∧ tree.read file.path.text = .ok (some bytes)

namespace Files

/-! ## The last record -/

namespace Catalogue

variable {files later : Catalogue} {file : File}

/-- A file is the last record, and no other has its identifier or its path. -/
def Latest (files : Catalogue) (file : File) : Prop :=
  ∃ front, files.records = front ++ [file] ∧
    ∀ other ∈ front, other.id ≠ file.id ∧ other.path ≠ file.path

theorem Latest.found (latest : files.Latest file) :
    files.findById? file.id = some file ∧ files.findByPath? file.path.text = some file := by
  obtain ⟨front, records, apart⟩ := latest
  have ids : front.find? (·.id = file.id) = none := by
    simpa using fun other member => (apart other member).1
  have paths : front.find? (·.path.text = file.path.text) = none := by
    simpa [Path.text_inj] using fun other member => (apart other member).2
  constructor
  · simp [findById?, records, List.find?_append, ids]
  · simp [findByPath?, records, List.find?_append, paths]

theorem insert_latest (inserted : files.insert file = .ok later) : later.Latest file.detached := by
  unfold insert at inserted
  split_ifs at inserted with known taken
  rw [Except.ok.injEq] at inserted
  refine ⟨files.records, congrArg records inserted.symm, fun other member => ?_⟩
  simp only [List.any_eq_true, decide_eq_true_eq, not_exists, not_and] at known taken
  exact ⟨known other member, taken other member⟩

theorem Latest.erase (latest : files.Latest file) {id : Uuid} (another : file.id ≠ id) :
    (files.erase id).Latest file := by
  obtain ⟨front, records, apart⟩ := latest
  refine ⟨eraseFirst id front, ?_, fun other member => ?_⟩
  · rw [Catalogue.erase, records]
    clear records apart
    induction front with
    | nil => simp [eraseFirst, another]
    | cons first rest ih =>
      rw [List.cons_append, eraseFirst, eraseFirst]
      split_ifs
      · rfl
      · exact congrArg (first :: ·) ih
  · exact apart other ((eraseFirst_sublist id front).subset member)

end Catalogue

/-! ## Calls -/

section Calls

open Act

variable {env : Env} {state after : State} {tree : Blobs.Disk} {file old : File}

theorem uploadBlob_disk {bytes : ByteArray} {target : UploadTarget} (disk : state.blobs = .disk tree)
    (ran : (uploadBlob env bytes target).runOn state = (.ok (), after)) :
    after.files = state.files ∧ (tree.upload target.path bytes).1 = .ok () ∧
      after.blobs = .disk (tree.upload target.path bytes).2 := by
  rw [uploadBlob, runOn_changeBlobs, disk] at ran
  cases fault : env.outside.backendFault (.uploadBlob bytes target :: state.calls) with
  | some failure =>
    rw [fault] at ran
    cases ran
  | none =>
    simp only [fault, Prod.mk.injEq, Blobs.Store.upload_disk] at ran
    obtain ⟨stored, rfl⟩ := ran
    exact ⟨rfl, stored, rfl⟩

theorem deleteBlob_disk {path : String} {result : Except BackendFailure Unit}
    (disk : state.blobs = .disk tree)
    (ran : (deleteBlob env path).runOn state = (result, after)) :
    after.files = state.files ∧
      (after.blobs = .disk tree ∨ after.blobs = .disk (tree.delete path).2) := by
  rw [deleteBlob, runOn_changeBlobs, disk] at ran
  cases fault : env.outside.backendFault (.deleteBlob path :: state.calls) with
  | some failure =>
    rw [fault, Prod.mk.injEq] at ran
    obtain ⟨-, rfl⟩ := ran
    exact ⟨rfl, .inl disk⟩
  | none =>
    rw [fault, Prod.mk.injEq] at ran
    obtain ⟨-, rfl⟩ := ran
    exact ⟨rfl, .inr rfl⟩

theorem blobs_after_looking {ε α : Type} {act : Act ε α} {result : Except ε α}
    (looks : act.Keeps .looking) (ran : act.runOn state = (result, after)) :
    after.blobs = state.blobs := by
  obtain ⟨added, moved, -⟩ := looks.allows ran
  rw [moved]

theorem removeFile_disk (disk : state.blobs = .disk tree)
    (ran : (removeFile env old).runOn state = (.ok (), after)) :
    ∃ left, after.blobs = .disk left := by
  obtain ⟨_, middle, removed, rest⟩ := of_bind_ok ran
  obtain ⟨_, last, erased, ended⟩ := of_bind_ok rest
  rw [runOn_pure, Prod.mk.injEq] at ended
  have kept := (deleteRecord_ends (of_mapFailure_ok erased)).2.1
  rw [← ended.2, kept]
  rcases (deleteBlob_disk disk (of_mapFailure_ok removed)).2 with same | less
  · exact ⟨tree, same⟩
  · exact ⟨_, less⟩

end Calls

/-! ## Uploads -/

section Uploads

open Act

variable {env : Env} {state after : State} {tree : Blobs.Disk} {file old : File}
  {bytes : ByteArray} {strategy : ReplaceStrategy} {request : UploadRequest} {id : Uuid}
  {made : Plan}

theorem Catalogue.Latest.stores (latest : state.files.Latest file)
    (disk : state.blobs = .disk tree) (there : tree.read file.path.text = .ok (some bytes)) :
    state.Stores file bytes :=
  ⟨latest.found.1, latest.found.2, tree, disk, there⟩

theorem createRecord_stores (disk : state.blobs = .disk tree)
    (there : tree.read file.path.text = .ok (some bytes))
    (ran : (onRecords (createRecord env file)).runOn state = (.ok (), after)) :
    after.Stores file.detached bytes := by
  obtain ⟨-, same, inserted⟩ := createRecord_ok (of_mapFailure_ok ran)
  exact (Catalogue.insert_latest inserted).stores (same.trans disk) there

/-- A swap removes the content of the old file, which is another one unless both paths lead to
the same place. -/
theorem swap_stores (disk : state.blobs = .disk tree)
    (there : tree.read file.path.text = .ok (some bytes)) (member : old ∈ state.files.records)
    (apart : Blobs.names old.path.text = Blobs.names file.path.text → old.path = file.path)
    (ran : (swap env file old).runOn state = (.ok (), after)) :
    after.Stores file.detached bytes := by
  unfold swap at ran
  split_ifs at ran with here
  · obtain ⟨_, middle, erased, rest⟩ := of_bind_ok ran
    have same := (deleteRecord_ends (of_mapFailure_ok erased)).2.1
    exact createRecord_stores (same.trans disk) there rest
  · obtain ⟨_, first, created, rest⟩ := of_bind_ok ran
    obtain ⟨_, second, erased, rest⟩ := of_bind_ok rest
    obtain ⟨_, third, removed, ended⟩ := of_bind_ok rest
    obtain ⟨-, same, inserted⟩ := createRecord_ok (of_mapFailure_ok created)
    rw [runOn_pure, Prod.mk.injEq] at ended
    obtain ⟨-, rfl⟩ := ended
    have erased := of_outcome_ok erased
    have removed := of_outcome_ok removed
    have onDisk : second.blobs = .disk tree :=
      (deleteRecord_ends erased).2.1.trans (same.trans disk)
    have another : file.detached.id ≠ old.id :=
      Ne.symm ((Catalogue.insert_ok inserted).1 old member)
    have latest : second.files.Latest file.detached := by
      rcases deleteRecord_cases erased with ⟨-, -, kept⟩ | ⟨-, less⟩
      · exact kept ▸ Catalogue.insert_latest inserted
      · exact less ▸ (Catalogue.insert_latest inserted).erase another
    have elsewhere : Blobs.names old.path.text ≠ Blobs.names file.path.text :=
      fun together => here (apart together).symm
    -- clearing may have failed without notice, and then the old content is still there
    obtain ⟨files, contents⟩ := deleteBlob_disk onDisk removed
    rw [← files] at latest
    rcases contents with kept | less
    · exact latest.stores kept there
    · exact latest.stores less (Blobs.Disk.read_delete there elsewhere)

/-- An upload that succeeds leaves its file stored, with a content of its size. -/
theorem upload_stores (disk : state.blobs = .disk tree) {events : List Event}
    (apart : strategy = .uploadThenSwap → ∀ old, state.files.current? request.owner = some old →
      Blobs.names old.path.text = Blobs.names file.path.text → old.path = file.path)
    (ran : (upload env strategy request id).runOn state = (.ok (file, events), after)) :
    ∃ bytes, bytes.size = file.metadata.size ∧ after.Stores file bytes := by
  rw [upload_eq] at ran
  obtain ⟨made, planned, looked, rest⟩ := of_bind_ok ran
  obtain ⟨_, ready, cleared, rest⟩ := of_bind_ok rest
  obtain ⟨_, filled, stored, rest⟩ := of_bind_ok rest
  obtain ⟨_, entered, recorded, ended⟩ := of_bind_ok rest
  rw [runOn_pure, Prod.mk.injEq, Except.ok.injEq, Prod.mk.injEq] at ended
  obtain ⟨⟨same, -⟩, rfl⟩ := ended
  have looks := keeps_plan env request
  have onDisk : planned.blobs = .disk tree := (blobs_after_looking looks looked).trans disk
  have kept : planned.files = state.files := files_after_looking looks looked
  obtain ⟨existing, -, -⟩ := plan_ok env looked
  -- what is left of the disk when the content is stored
  obtain ⟨left, room⟩ : ∃ left, ready.blobs = .disk left := by
    unfold makeRoom at cleared
    split at cleared
    · exact removeFile_disk onDisk cleared
    · rw [runOn_pure, Prod.mk.injEq] at cleared
      exact ⟨tree, cleared.2 ▸ onDisk⟩
  obtain ⟨files, success, contents⟩ := uploadBlob_disk room (of_mapFailure_ok stored)
  have there := Blobs.Disk.read_upload success
  refine ⟨made.prepared.bytes, by rw [← same]; rfl, ?_⟩
  rw [← same] at apart ⊢
  cases strategy with
  | deleteThenUpload => exact createRecord_stores contents there recorded
  | uploadThenSwap =>
    cases chosen : made.existing with
    | none =>
      rw [chosen] at recorded
      exact createRecord_stores contents there recorded
    | some old =>
      rw [chosen] at recorded existing cleared
      have current : state.files.current? request.owner = some old :=
        (Option.filter_eq_some_iff.1 existing.symm).1
      have waited : planned = ready := congrArg Prod.snd cleared
      -- the plan was made on the records that the swap finds
      have member : old ∈ filled.files.records := by
        rw [files, ← waited, kept]
        exact (Catalogue.mem_of_current? current).1
      exact swap_stores contents there member (apart rfl old current) recorded

end Uploads

end Files

end Depot
