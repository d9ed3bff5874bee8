import Depot.Proofs.Files.Clearance

/-!
# Taking in a file, in two halves

An upload first makes a plan, which only looks, and then carries it out.  The plan
settles what is stored, where, and which file gives way; it is refused where the
place is held by any other file.  Carrying it out has one of three outcomes as long
as the records take every write: nothing has changed, the old file is gone and the
new one is not there, or the new file has taken the place of the old one.
-/

set_option autoImplicit false

namespace Depot.Files

open Act

variable (env : Env)

/-- What an upload is going to do. -/
structure Plan where
  prepared : Prepared
  existing : Option File
  path : Path

def placeFor (request : UploadRequest) : Except FileFailure Path :=
  (Path.build request.owner request.filename request.environment env.now).mapError
    fun fault => .records fault.failure

/-- The half of an upload that writes nothing. -/
def plan (request : UploadRequest) : Act FileFailure Plan := do
  enforce env request
  let mimeType ← recognise env request.bytes
  let prepared ← prepare env request mimeType
  let existing ← fileToReplace env request
  let path ← Act.ofExcept (placeFor env request)
  refuseOccupied env path existing
  return ⟨prepared, existing, path⟩

/-- What goes before the new content is stored. -/
def makeRoom (strategy : ReplaceStrategy) (existing : Option File) : Act FileFailure Unit :=
  match strategy, existing with
  | .deleteThenUpload, some old => removeFile env old
  | _, _ => pure ()

/-- What follows once the new content is stored. -/
def enter (strategy : ReplaceStrategy) (file : File) (existing : Option File) :
    Act FileFailure Unit :=
  match strategy, existing with
  | .uploadThenSwap, some old => swap env file old
  | _, _ => onRecords (createRecord env file)

def Plan.file (plan : Plan) (request : UploadRequest) (id : Uuid) : File :=
  .create id request.owner request.filename plan.path plan.prepared.metadata
    request.correlation env.now

def Plan.content (plan : Plan) : Blobs.Content := ⟨plan.prepared.bytes, plan.prepared.mimeType⟩

/-- The half of an upload that writes. -/
def carryOut (strategy : ReplaceStrategy) (request : UploadRequest) (id : Uuid) (plan : Plan) :
    Act FileFailure (File × List Event) := do
  makeRoom env strategy plan.existing
  storeContent env request plan.path plan.prepared
  enter env strategy (plan.file env request id) plan.existing
  return ((plan.file env request id).detached, (plan.file env request id).uncommitted)

/-- An upload is a plan and then what carries it out. -/
theorem upload_eq (strategy : ReplaceStrategy) (request : UploadRequest) (id : Uuid) :
    upload env strategy request id = plan env request >>= carryOut env strategy request id := by
  unfold upload plan
  simp only [bind_assoc]
  congr 1; funext _
  congr 1; funext mimeType
  congr 1; funext prepared
  congr 1; funext existing
  unfold placeFor
  cases Path.build request.owner request.filename request.environment env.now with
  | error fault => rfl
  | ok path =>
    simp only [pure_bind]
    change (refuseOccupied env path existing >>= _) = (refuseOccupied env path existing >>= _)
    congr 1; funext _
    cases strategy <;> cases existing <;> simp only [carryOut, makeRoom, enter, pure_bind] <;> rfl

/-! ## The plan -/

theorem keeps_judge (limits : Constraints) (bytes : ByteArray) :
    (limits.judge bytes.size (detectType env bytes)
      (measurePicture env bytes)).Keeps .looking := by
  refine .bind (keeps_detectType env bytes) fun detected => ?_
  cases detected with
  | none => exact .pure _
  | some mimeType =>
    have sides : Act.Keeps .looking (if (isImageType mimeType && limits.hasBounds) = true then
          (do return limits.judgeSides mimeType (← measurePicture env bytes))
        else pure (.valid mimeType)) := by
      split_ifs
      · exact .bind (keeps_measurePicture env bytes) fun _ => .pure _
      · exact .pure _
    dsimp only
    by_cases listed : mimeType ∉ limits.allowedTypes
    · rw [if_pos listed]
      exact .pure _
    · rw [if_neg listed]
      cases limits.maxSizeBytes with
      | none => exact sides
      | some limit =>
        dsimp only
        by_cases large : limit.toNat < bytes.size
        · rw [if_pos large]
          exact .pure _
        · rw [if_neg large]
          exact sides

theorem keeps_enforce (request : UploadRequest) : (enforce env request).Keeps .looking := by
  unfold enforce
  cases request.constraints with
  | none => exact .pure _
  | some limits =>
    refine .bind (.mapFailure _ (keeps_judge env limits request.bytes)) fun verdict => ?_
    cases verdict.failure? limits with
    | none => exact .pure _
    | some failure => exact .throw _

theorem keeps_recognise (bytes : ByteArray) : (recognise env bytes).Keeps .looking := by
  refine .bind (.mapFailure _ (keeps_detectType env bytes)) fun detected => ?_
  cases detected with
  | none => exact .throw _
  | some mimeType => exact .pure _

theorem keeps_prepare (request : UploadRequest) (mimeType : String) :
    (prepare env request mimeType).Keeps .looking := by
  unfold prepare
  split_ifs
  · cases request.transform with
    | some change => exact .bind (.mapFailure _ (keeps_transformPicture env _ _)) fun _ => .pure _
    | none => exact .bind (.mapFailure _ (keeps_measurePicture env _)) fun _ => .pure _
  · exact .pure _

theorem keeps_fileToReplace (request : UploadRequest) :
    (fileToReplace env request).Keeps .looking :=
  .bind (.mapFailure _ (keeps_currentFile env _)) fun _ => .pure _

theorem keeps_refuseOccupied (path : Path) (existing : Option File) :
    (refuseOccupied env path existing).Keeps .looking := by
  refine .bind (.mapFailure _ (keeps_fileByPath env _)) fun found => ?_
  cases found with
  | none => exact .pure _
  | some occupant =>
    dsimp only
    split_ifs
    · exact .pure _
    · exact .throw _

theorem keeps_plan (request : UploadRequest) : (plan env request).Keeps .looking :=
  .bind (keeps_enforce env request) fun _ => .bind (keeps_recognise env _) fun _ =>
    .bind (keeps_prepare env request _) fun _ => .bind (keeps_fileToReplace env request) fun _ =>
      .bind (.ofExcept _) fun _ => .bind (keeps_refuseOccupied env _ _) fun _ => .pure _

theorem files_after_looking {ε α : Type} {act : Act ε α} {state after : State}
    {result : Except ε α} (looks : act.Keeps .looking)
    (ran : act.runOn state = (result, after)) : after.files = state.files := by
  obtain ⟨added, moved, -⟩ := looks state
  rw [ran] at moved
  have landed : after = { state with calls := added ++ state.calls } := moved
  rw [landed]

theorem fileToReplace_ok {request : UploadRequest} {state after : State} {existing : Option File}
    (ran : (fileToReplace env request).runOn state = (.ok existing, after)) :
    existing = (state.files.current? request.owner).filter fun _ => request.replaceExisting := by
  obtain ⟨current, middle, asked, rest⟩ := of_bind_ok ran
  have answered : current = state.files.current? request.owner :=
    question_ok env (of_mapFailure_ok asked)
  rw [answered] at rest
  simpa [eq_comm] using congrArg Prod.fst rest

theorem refuseOccupied_ok {path : Path} {existing : Option File} {state after : State}
    (ran : (refuseOccupied env path existing).runOn state = (.ok (), after)) (occupant : File)
    (found : state.files.findByPath? path.text = some occupant) :
    existing.map (·.id) = some occupant.id := by
  obtain ⟨answer, middle, asked, rest⟩ := of_bind_ok ran
  have answered : answer = some occupant := by
    rw [← found]
    exact question_ok env (of_mapFailure_ok asked)
  subst answered
  by_contra other
  simp [other] at rest

theorem plan_ok {request : UploadRequest} {state after : State} {made : Plan}
    (ran : (plan env request).runOn state = (.ok made, after)) :
    made.existing =
        (state.files.current? request.owner).filter (fun _ => request.replaceExisting) ∧
      placeFor env request = .ok made.path ∧
      ∀ occupant, state.files.findByPath? made.path.text = some occupant →
        made.existing.map (·.id) = some occupant.id := by
  obtain ⟨_, first, enforced, rest⟩ := of_bind_ok ran
  obtain ⟨mimeType, second, recognised, rest⟩ := of_bind_ok rest
  obtain ⟨prepared, third, readied, rest⟩ := of_bind_ok rest
  obtain ⟨existing, fourth, chosen, rest⟩ := of_bind_ok rest
  obtain ⟨path, fifth, placed, rest⟩ := of_bind_ok rest
  obtain ⟨_, sixth, free, last⟩ := of_bind_ok rest
  have same : third.files = state.files := by
    rw [files_after_looking (keeps_prepare env request mimeType) readied,
      files_after_looking (keeps_recognise env request.bytes) recognised,
      files_after_looking (keeps_enforce env request) enforced]
  have stays : fourth.files = state.files := by
    rw [files_after_looking (keeps_fileToReplace env request) chosen, same]
  rw [runOn_ofExcept, Prod.mk.injEq] at placed
  obtain ⟨place, rfl⟩ := placed
  rw [runOn_pure, Prod.mk.injEq, Except.ok.injEq] at last
  obtain ⟨rfl, -⟩ := last
  refine ⟨?_, place, ?_⟩
  · rw [← same]
    exact fileToReplace_ok env chosen
  · rw [← stays]
    exact refuseOccupied_ok env free

/-! ## Carrying it out -/

section CarryOut

variable {env} {state : State} {made : Plan} {request : UploadRequest} {id : Uuid}

/-- A plan that fits the records: what gives way is one of them, no other is at the place,
and the identifier is new. -/
structure Plan.Fits (made : Plan) (id : Uuid) (records : List File) : Prop where
  existing : ∀ old, made.existing = some old → old ∈ records
  place : ∀ other ∈ records, other.path = made.path → made.existing = some other
  fresh : ∀ other ∈ records, other.id ≠ id

/-- How the addition of a planned file may end: the content has been refused and the
holdings are the same, or the file has joined them. -/
def Addition (made : Plan) (file : File) (state : State)
    (ended : Except FileFailure (File × List Event) × State) : Prop :=
  (∃ failure, ended.1 = .error failure ∧ ended.2.holdings = state.holdings) ∨
    ended.1 = .ok (file.detached, file.uncommitted) ∧
      ended.2.holdings = state.holdings.join file.detached made.content ∧
      uploadedFor file.id ended.2.calls = some made.content

/-- How an intake may end: it fails, with nothing changed or the old file gone, or the new
file has taken the place of the old one, whose content is left if its removal has failed. -/
def Intake (env : Env) (made : Plan) (file : File) (state : State)
    (ended : Except FileFailure (File × List Event) × State) : Prop :=
  (∃ failure, ended.1 = .error failure ∧
    (ended.2.holdings = state.holdings ∨ ∃ old, made.existing = some old ∧
      ended.2.holdings = state.holdings.leave (·.id = old.id) [old.path.text])) ∨
    ended.1 = .ok (file.detached, file.uncommitted) ∧
      uploadedFor file.id ended.2.calls = some made.content ∧
      ∃ cleared, ended.2.holdings = cleared.join file.detached made.content ∧
        state.holdings.Cleared (fun other => made.existing.any (other.id = ·.id))
          (RemovalFailed env state ended.2) cleared

theorem storeContent_ends {blobs : Blobs.Memory} (inMemory : state.blobs = .memory blobs)
    {path : Path} {prepared : Prepared} {result : Except FileFailure Unit} {after : State}
    (ran : (storeContent env request path prepared).runOn state = (result, after)) :
    after.calls = .uploadBlob prepared.bytes ⟨path.text, prepared.mimeType, remarks request⟩ ::
        state.calls ∧ after.files = state.files ∧
      ((∃ failure, result = .error failure ∧ env.outside.backendFault after.calls ≠ none ∧
          after.blobs = state.blobs) ∨
        result = .ok () ∧ env.outside.backendFault after.calls = none ∧
          after.blobs = .memory (blobs.put path.text ⟨prepared.bytes, prepared.mimeType⟩)) := by
  rw [storeContent, runOn_mapFailure, runOn_uploadBlob env inMemory] at ran
  cases fault : env.outside.backendFault (.uploadBlob prepared.bytes
      ⟨path.text, prepared.mimeType, remarks request⟩ :: state.calls) with
  | some failure =>
    rw [fault, Prod.mk.injEq] at ran
    obtain ⟨rfl, rfl⟩ := ran
    refine ⟨rfl, rfl, .inl ⟨_, rfl, ?_, rfl⟩⟩
    rw [State.noted_calls, fault]
    exact Option.some_ne_none failure
  | none =>
    rw [fault, Prod.mk.injEq] at ran
    obtain ⟨rfl, rfl⟩ := ran
    exact ⟨rfl, rfl, .inr ⟨rfl, fault, rfl⟩⟩

theorem runOn_createRecord_fresh (reliable : env.outside.Reliable "files") {file : File}
    (newId : ∀ other ∈ state.files.records, other.id ≠ file.id)
    (newPath : ∀ other ∈ state.files.records, other.path ≠ file.path) :
    (createRecord env file).runOn state =
      (.ok (), { state.noted (.createFile file) with
        files := ⟨state.files.records ++ [file.detached]⟩ }) := by
  rw [runOn_createRecord, reliable.record (.createFile file) _ rfl,
    Catalogue.insert_fresh newId newPath]

theorem runOn_deleteRecord_known (reliable : env.outside.Reliable "files") (old : Uuid) :
    (deleteRecord env old).runOn state =
      (.ok (state.files.findById? old),
        { state.noted (.deleteFile old) with files := state.files.erase old }) := by
  rw [runOn_deleteRecord, reliable.record (.deleteFile old) _ rfl]

theorem addition (reliable : env.outside.Reliable "files") (inMemory : state.InMemory)
    (fresh : ∀ other ∈ state.files.records, other.id ≠ id)
    (vacant : ∀ other ∈ state.files.records, other.path ≠ made.path) :
    Addition made (made.file env request id) state
      ((do
        storeContent env request made.path made.prepared
        onRecords (createRecord env (made.file env request id))
        return ((made.file env request id).detached, (made.file env request id).uncommitted) :
          Act FileFailure (File × List Event)).runOn state) := by
  obtain ⟨blobs, inMemory⟩ := inMemory
  refine bind_cases (fun failure after ran => ?_) fun _ stored ran => ?_
  · obtain ⟨-, files, ⟨_, -, -, same⟩ | ⟨bad, -⟩⟩ := storeContent_ends inMemory ran
    · exact .inl ⟨_, rfl, State.holdings_congr files same⟩
    · cases bad
  obtain ⟨calls, files, ⟨_, bad, -⟩ | ⟨-, -, contents⟩⟩ := storeContent_ends inMemory ran
  · cases bad
  have created := @runOn_createRecord_fresh env stored reliable (made.file env request id)
    (files ▸ fresh) (files ▸ vacant)
  rw [onRecords, runOn_bind_ok (runOn_mapFailure_ok created)]
  refine .inr ⟨rfl, ?_, ?_⟩
  · rw [State.holdings_eq inMemory, Holdings.join_put]
    exact State.holdings_of (by rw [runOn_pure, files]) contents
  · simp only [runOn_pure, State.noted_calls, calls]
    exact @uploadedFor_created _ [] _ _ (by simp) _

theorem Plan.Fits.vacant {records : List File} (fits : made.Fits id records)
    (free : ∀ old, made.existing = some old → old.path ≠ made.path) :
    ∀ other ∈ records, other.path ≠ made.path := by
  intro other member here
  exact free other (fits.place other member here) here

theorem Plan.Fits.leaves {records : List File} (fits : made.Fits id records) {old : File}
    (existing : made.existing = some old) :
    ∀ other ∈ records.filter (·.id ≠ old.id), other.path ≠ made.path := by
  intro other member here
  obtain ⟨present, differs⟩ := List.mem_filter.1 member
  have same : some old = some other := existing ▸ fits.place other present here
  rw [Option.some.inj same] at differs
  simp at differs

section Swap

variable {old : File} {calls : List Call}

theorem runOn_swap_here (reliable : env.outside.Reliable "files") {file : File}
    (here : file.path = old.path) (ids : (state.files.records.map (·.id)).Nodup)
    (newId : ∀ other ∈ state.files.records, other.id ≠ file.id)
    (newPath : ∀ other ∈ state.files.records.filter (·.id ≠ old.id), other.path ≠ file.path) :
    (swap env file old).runOn state =
      (.ok (), { (state.noted (.deleteFile old.id)).noted (.createFile file) with
        files := ⟨state.files.records.filter (·.id ≠ old.id) ++ [file.detached]⟩ }) := by
  rw [swap, if_pos here, runOn_bind]
  simp only [onRecords, runOn_mapFailure, runOn_deleteRecord_known reliable, mapError_ok]
  rw [Catalogue.erase_eq_filter _ ids, runOn_createRecord_fresh reliable]
  · rfl
  · intro other member
    exact newId other (List.mem_filter.1 member).1
  · exact newPath

theorem runOn_swap_elsewhere (reliable : env.outside.Reliable "files") {file : File}
    {blobs : Blobs.Memory} (inMemory : state.blobs = .memory blobs)
    (elsewhere : file.path ≠ old.path) (ids : (state.files.records.map (·.id)).Nodup)
    (newId : ∀ other ∈ state.files.records, other.id ≠ file.id)
    (newPath : ∀ other ∈ state.files.records, other.path ≠ file.path)
    (another : file.id ≠ old.id) :
    (swap env file old).runOn state =
      let calls := .deleteFile old.id :: .createFile file :: state.calls
      let files := ⟨state.files.records.filter (·.id ≠ old.id) ++ [file.detached]⟩
      let call := Call.deleteBlob old.path.text
      match env.outside.backendFault (call :: calls) with
      | some _ => (.ok (), { state with files, calls := call :: calls })
      | none => (.ok (), { state with
          files, calls := call :: calls, blobs := .memory (blobs.erase old.path.text) }) := by
  have created : (onRecords (createRecord env file)).runOn state = (.ok (), { state with
      files := ⟨state.files.records ++ [file.detached]⟩
      calls := .createFile file :: state.calls }) := by
    rw [onRecords, runOn_mapFailure, runOn_createRecord_fresh reliable newId newPath]
    rfl
  have erased : (⟨state.files.records ++ [file.detached]⟩ : Catalogue).erase old.id =
      ⟨state.files.records.filter (·.id ≠ old.id) ++ [file.detached]⟩ :=
    congrArg Catalogue.mk (Catalogue.eraseFirst_append old.id _ ids another)
  have deleted := @runOn_deleteBlob env blobs { state with
    files := ⟨state.files.records.filter (·.id ≠ old.id) ++ [file.detached]⟩
    calls := .deleteFile old.id :: .createFile file :: state.calls } inMemory old.path.text
  rw [swap, if_neg elsewhere, runOn_bind_ok created, runOn_bind, runOn_outcome,
    runOn_deleteRecord_known reliable]
  simp only [erased, State.noted] at deleted ⊢
  rw [runOn_bind, runOn_outcome, deleted]
  dsimp only
  cases env.outside.backendFault (_ :: _) <;> rfl

theorem intake_swap (reliable : env.outside.Reliable "files") (inMemory : state.InMemory)
    (backed : state.holdings.Backed calls) (fits : made.Fits id state.files.records)
    (existing : made.existing = some old) :
    Intake env made (made.file env request id) state
      ((do
        storeContent env request made.path made.prepared
        swap env (made.file env request id) old
        return ((made.file env request id).detached, (made.file env request id).uncommitted) :
          Act FileFailure (File × List Event)).runOn state) := by
  obtain ⟨blobs, inMemory⟩ := inMemory
  have member : old ∈ state.files.records := fits.existing old existing
  refine bind_cases (fun failure after ran => ?_) fun _ stored ran => ?_
  · obtain ⟨-, files, ⟨_, -, -, same⟩ | ⟨bad, -⟩⟩ := storeContent_ends inMemory ran
    · exact .inl ⟨_, rfl, .inl (State.holdings_congr files same)⟩
    · cases bad
  obtain ⟨calls, files, ⟨_, bad, -⟩ | ⟨-, -, contents⟩⟩ := storeContent_ends inMemory ran
  · cases bad
  refine .inr ?_
  rw [existing]
  by_cases here : made.path = old.path
  · have swapped := @runOn_swap_here env stored old reliable (made.file env request id) here
      (files ▸ backed.ids) (files ▸ fits.fresh) (files ▸ fits.leaves existing)
    rw [runOn_bind_ok swapped]
    refine ⟨rfl, ?_, _, ?_, backed.clear member⟩
    · simp only [runOn_pure, State.noted_calls, calls]
      exact @uploadedFor_created _ [_] _ _ (by simp [Call.content?]) _
    · have text : old.path.text = (made.file env request id).detached.path.text :=
        congrArg Path.text here.symm
      rw [State.holdings_eq inMemory, text, Holdings.leave_join_here]
      exact State.holdings_of (by simp [files]) contents
  · have vacant : ∀ other ∈ state.files.records, other.path ≠ made.path := fits.vacant
      fun other same => Option.some.inj (existing ▸ same) ▸ Ne.symm here
    have swapped := @runOn_swap_elsewhere env stored old reliable (made.file env request id) _
      contents here (files ▸ backed.ids) (files ▸ fits.fresh) (files ▸ vacant)
      (Ne.symm (fits.fresh old member))
    have later : ∀ call ∈ [Call.deleteBlob old.path.text, .deleteFile old.id],
        call.creates id = false := by simp [Call.creates]
    have uploaded : uploadedFor id (.deleteBlob old.path.text :: .deleteFile old.id ::
        .createFile (made.file env request id) :: stored.calls) = some made.content := by
      rw [calls]
      exact (uploadedFor_append later _).trans (@uploadedFor_created _ [] _ _ (by simp) _)
    have elsewhere : old.path.text ≠ (made.file env request id).detached.path.text :=
      fun same => here (Path.text_injective same).symm
    cases fault : env.outside.backendFault (.deleteBlob old.path.text :: .deleteFile old.id ::
        .createFile (made.file env request id) :: stored.calls) with
    | some failure =>
      simp only [fault] at swapped
      rw [runOn_bind_ok swapped]
      refine ⟨rfl, uploaded, state.holdings.leave (·.id = old.id) [], ?_, [], rfl,
        by simp [Holdings.Theirs], ?_⟩
      · rw [State.holdings_eq inMemory, Holdings.leave_join_put]
        exact State.holdings_of (by simp [files]) contents
      · intro file present leaves
        have same : file = old := backed.eq_of_id present member (by simpa using leaves)
        rw [same]
        refine .inr ⟨_, List.suffix_rfl, ?_, by rw [fault]; rfl⟩
        rw [calls]
        exact ⟨[_, _, _], rfl⟩
    | none =>
      simp only [fault] at swapped
      rw [runOn_bind_ok swapped]
      refine ⟨rfl, uploaded, _, ?_, backed.clear member⟩
      rw [State.holdings_eq inMemory, Holdings.leave_join_elsewhere _ _ _ _ _ elsewhere]
      exact State.holdings_of (by simp [files]) rfl

end Swap

theorem Addition.intake {file : File}
    {ended : Except FileFailure (File × List Event) × State}
    (addition : Addition made file state ended) (nobody : made.existing = none) :
    Intake env made file state ended := by
  rcases addition with ⟨failure, failed, same⟩ | ⟨well, joined, uploaded⟩
  · exact .inl ⟨failure, failed, .inl same⟩
  · refine .inr ⟨well, uploaded, state.holdings, joined, ?_⟩
    rw [nobody]
    exact .nobody _

theorem Addition.intake_after {file old : File} {middle : State}
    {ended : Except FileFailure (File × List Event) × State}
    (addition : Addition made file middle ended) (existing : made.existing = some old)
    {calls : List Call} (backed : state.holdings.Backed calls)
    (member : old ∈ state.files.records)
    (left : middle.holdings = state.holdings.leave (·.id = old.id) [old.path.text]) :
    Intake env made file state ended := by
  rw [Addition, left] at addition
  rcases addition with ⟨failure, failed, same⟩ | ⟨well, joined, uploaded⟩
  · exact .inl ⟨failure, failed, .inr ⟨old, existing, same⟩⟩
  · refine .inr ⟨well, uploaded, _, joined, ?_⟩
    rw [existing]
    exact backed.clear member

theorem intake_carryOut (reliable : env.outside.Reliable "files") (inMemory : state.InMemory)
    {calls : List Call} (backed : state.holdings.Backed calls)
    (fits : made.Fits id state.files.records) (strategy : ReplaceStrategy) :
    Intake env made (made.file env request id) state
      ((carryOut env strategy request id made).runOn state) := by
  cases existing : made.existing with
  | none =>
    have vacant := fits.vacant fun old same => by rw [existing] at same; cases same
    refine Addition.intake ?_ existing
    cases strategy <;>
    · rw [carryOut, existing]
      exact addition reliable inMemory fits.fresh vacant
  | some old =>
    have member : old ∈ state.files.records := fits.existing old existing
    cases strategy with
    | uploadThenSwap =>
      rw [carryOut, existing]
      exact intake_swap reliable inMemory backed fits existing
    | deleteThenUpload =>
      rw [carryOut, existing]
      refine bind_cases (fun failure middle ran => ?_) fun _ middle ran => ?_
      · rcases removeFile_cases reliable inMemory backed ran with ⟨_, -, same⟩ | ⟨bad, -⟩
        · exact .inl ⟨failure, rfl, .inl same⟩
        · cases bad
      · rcases removeFile_cases reliable inMemory backed ran with ⟨_, bad, -⟩ | ⟨-, kept, left⟩
        · cases bad
        · have records : middle.files.records = state.files.records.filter (·.id ≠ old.id) := by
            have same := congrArg Holdings.records left
            simpa [State.holdings, Holdings.leave] using same
          have fresh : ∀ other ∈ middle.files.records, other.id ≠ id := by
            intro other present
            rw [records] at present
            exact fits.fresh other (List.mem_filter.1 present).1
          refine (addition reliable kept fresh ?_).intake_after existing backed member left
          rw [records]
          exact fits.leaves existing

end CarryOut

/-! ## The whole upload -/

section Upload

variable {env} {state after : State} {made : Plan} {request : UploadRequest} {id : Uuid}

theorem Intake.after_sparing {file : File} {ended : Except FileFailure (File × List Event) × State}
    (spared : Frame.sparing.Allows state after) (intake : Intake env made file after ended) :
    Intake env made file state ended := by
  have same := Frame.holdings_of_sparingFiles spared.1
  have since : state.calls <:+ after.calls := by
    obtain ⟨-, -, added, calls, -⟩ := spared.1
    exact ⟨added, calls.symm⟩
  rw [Intake, same] at intake
  rcases intake with failed | ⟨well, uploaded, cleared, joined, left⟩
  · exact .inl failed
  · exact .inr ⟨well, uploaded, cleared, joined, left.mono fun path lost =>
      lost.widen since List.suffix_rfl⟩

theorem plan_fits (ids : (state.files.records.map (·.id)).Nodup)
    (paths : (state.files.records.map (·.path)).Nodup)
    (fresh : ∀ other ∈ state.files.records, other.id ≠ id)
    (ran : (plan env request).runOn state = (.ok made, after)) :
    made.Fits id state.files.records := by
  obtain ⟨chosen, -, free⟩ := plan_ok env ran
  have member : ∀ old, made.existing = some old → old ∈ state.files.records := by
    intro old existing
    rw [chosen] at existing
    exact (Catalogue.mem_of_current? (Option.filter_eq_some_iff.1 existing).1).1
  refine ⟨member, fun other present here => ?_, fresh⟩
  have found : state.files.findByPath? made.path.text = some other := by
    rw [← here]
    exact Catalogue.findByPath?_of_mem (nodup_texts paths) present
  obtain ⟨old, existing, same⟩ := Option.map_eq_some_iff.1 (free other found)
  rw [existing, List.inj_on_of_nodup_map ids (member old existing) present same]

/-- How an upload may end: it is refused before anything is written, or a plan that fits is
carried out. -/
def Upload (env : Env) (request : UploadRequest) (id : Uuid) (state : State)
    (ended : Except FileFailure (File × List Event) × State) : Prop :=
  (∃ failure, ended.1 = .error failure ∧ ended.2.holdings = state.holdings) ∨
    ∃ made, placeFor env request = .ok made.path ∧ made.Fits id state.files.records ∧
      Intake env made (made.file env request id) state ended

theorem upload_upload (reliable : env.outside.Reliable "files") (inMemory : state.InMemory)
    {calls : List Call} (backed : state.holdings.Backed calls)
    (fresh : ∀ other ∈ state.files.records, other.id ≠ id) (strategy : ReplaceStrategy) :
    Upload env request id state ((upload env strategy request id).runOn state) := by
  rw [upload_eq]
  refine bind_cases (fun failure middle ran => ?_) fun made middle ran => ?_
  · have spared := spared_of_run (keeps_plan env request).spares ran
    exact .inl ⟨failure, rfl, Frame.holdings_of_sparingFiles spared.1⟩
  · have spared := spared_of_run (keeps_plan env request).spares ran
    have same := Frame.holdings_of_sparingFiles spared.1
    have fits := plan_fits backed.ids backed.paths fresh ran
    refine .inr ⟨made, (plan_ok env ran).2.1, fits, ?_⟩
    refine (intake_carryOut reliable (Frame.inMemory_of_sparing spared inMemory)
      (same ▸ backed) ?_ strategy).after_sparing spared
    rw [spared.1.1]
    exact fits

end Upload

/-! ## What an upload leaves alone -/

section Kept

variable {env} {frame : Frame} {recorded : File → Prop} (admits : frame.AdmitsFiles recorded)

include admits

theorem kept_swap {file : File} (records : recorded file) (old : File) :
    (swap env file old).Keeps frame := by
  unfold swap
  split
  · exact .bind (.mapFailure _ (kept_deleteRecord admits _)) fun _ =>
      .mapFailure _ (kept_createRecord admits records)
  · exact .bind (.mapFailure _ (kept_createRecord admits records)) fun _ =>
      .bind (.outcome (kept_deleteRecord admits _)) fun _ =>
        .bind (.outcome (kept_deleteBlob admits _)) fun _ => .pure _

theorem kept_makeRoom (strategy : ReplaceStrategy) (existing : Option File) :
    (makeRoom env strategy existing).Keeps frame := by
  unfold makeRoom
  split
  · exact kept_removeFile admits _
  · exact .pure _

theorem kept_carryOut (strategy : ReplaceStrategy) (request : UploadRequest) {id : Uuid}
    {made : Plan} (records : recorded (made.file env request id)) :
    (carryOut env strategy request id made).Keeps frame := by
  refine .bind (kept_makeRoom admits _ _) fun _ =>
    .bind (.mapFailure _ (kept_uploadBlob admits _ _)) fun _ => .bind ?_ fun _ => .pure _
  unfold enter
  split
  · exact kept_swap admits records _
  · exact .mapFailure _ (kept_createRecord admits records)

theorem kept_upload (strategy : ReplaceStrategy) (request : UploadRequest) {id : Uuid}
    (records : ∀ made : Plan, recorded (made.file env request id)) :
    (upload env strategy request id).Keeps frame := by
  rw [upload_eq]
  exact .bind (kept_looking admits (keeps_plan env request)) fun made =>
    kept_carryOut admits strategy request (records made)

end Kept

theorem keeps_carryOut {makes : Uuid → Prop} (strategy : ReplaceStrategy)
    (request : UploadRequest) {id : Uuid} (drawn : makes id) (made : Plan) :
    (carryOut env strategy request id made).Keeps (.filing makes) :=
  kept_carryOut Frame.filing_admits strategy request drawn

theorem keeps_upload {makes : Uuid → Prop} (strategy : ReplaceStrategy)
    (request : UploadRequest) {id : Uuid} (drawn : makes id) :
    (upload env strategy request id).Keeps (.filing makes) :=
  kept_upload Frame.filing_admits strategy request fun _ => drawn

end Depot.Files
