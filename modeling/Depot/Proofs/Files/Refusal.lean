import Depot.Proofs.Files.Strategies

/-!
# A refused upload changes nothing

Where neither store refuses a call, an upload fails in its first half or not at all: once
it has started to write, every call is taken, up to the one that makes the new record.  So
the causes of a refusal are those listed here, and what it leaves is the state it has
found, with the questions noted that were asked until then.
-/

set_option autoImplicit false

namespace Depot.Files

open Act

/-- The last call went to a service that inspects contents or works on pictures, and failed. -/
def ServiceFailed (env : Env) (calls : List Call) (cause : BackendFailure) : Prop :=
  env.outside.backendFault calls = some cause ∧ ∃ call earlier, calls = call :: earlier ∧
    (call.service? = some "validator" ∨ call.service? = some "images")

/-- The verdict on a content, as long as no service fails. -/
def verdictOn (env : Env) (limits : Constraints) (bytes : ByteArray) (calls : List Call) :
    Constraints.Verdict :=
  let typed := .detectType bytes :: calls
  Id.run <| limits.judge bytes.size (pure (env.outside.mimeType typed bytes))
    (pure (env.outside.sides (.measurePicture bytes :: typed) bytes))

/-- Why an upload is refused although both stores take every call. -/
inductive Refusal (env : Env) (request : UploadRequest) (state : State) (calls : List Call) :
    FileFailure → Prop
  | service {cause : BackendFailure} (failed : ServiceFailed env calls cause) :
    Refusal env request state calls (.ofBackend cause)
  | limits {limits : Constraints} {failure : FileFailure}
    (given : request.constraints = some limits)
    (verdict : (verdictOn env limits request.bytes state.calls).failure? limits = some failure) :
    Refusal env request state calls failure
  | unrecognized {earlier : List Call} (last : calls = .detectType request.bytes :: earlier)
    (unknown : env.outside.mimeType calls request.bytes = none) :
    Refusal env request state calls (.typeRefused none [])
  | transform {change : Pictures.Transform} {earlier : List Call} {cause : BackendFailure}
    (given : request.transform = some change)
    (last : calls = .transformPicture request.bytes change :: earlier)
    (failed : env.outside.transform calls request.bytes change = .error cause) :
    Refusal env request state calls (.ofBackend cause)
  | place {failure : FileFailure} (unplaced : placeFor env request = .error failure) :
    Refusal env request state calls failure
  | occupied {path : Path} {occupant : File} (place : placeFor env request = .ok path)
    (present : occupant ∈ state.files.records) (here : occupant.path = path)
    (stays : (state.files.current? request.owner).filter (fun _ => request.replaceExisting) ≠
      some occupant) :
    Refusal env request state calls
      (.records (.alreadyExists ("a file already exists at " ++ path.text)))

section Plan

variable {env : Env} {request : UploadRequest} {state start : State}

/-! ## What the services answer -/

/-- A service that is asked fails with the call, or gives an answer that may hang on the calls made
so far. -/
theorem runOn_consulted {α : Type} (call : Call) (answer : List Call → Except BackendFailure α)
    (state : State) :
    (notedService env call >>= fun calls => Act.ofExcept (answer calls)).runOn state =
      (match env.outside.backendFault (call :: state.calls) with
        | some cause => .error cause
        | none => answer (call :: state.calls),
      state.noted call) := by
  rw [runOn_bind, notedService, runOn_note]
  cases env.outside.backendFault (call :: state.calls) <;> rfl

theorem runOn_detectType (bytes : ByteArray) (state : State) :
    (detectType env bytes).runOn state =
      (match env.outside.backendFault (.detectType bytes :: state.calls) with
        | some cause => .error cause
        | none => .ok (env.outside.mimeType (.detectType bytes :: state.calls) bytes),
      state.noted (.detectType bytes)) :=
  runOn_consulted _ (fun calls => .ok (env.outside.mimeType calls bytes)) state

theorem runOn_measurePicture (bytes : ByteArray) (state : State) :
    (measurePicture env bytes).runOn state =
      (match env.outside.backendFault (.measurePicture bytes :: state.calls) with
        | some cause => .error cause
        | none => .ok (env.outside.sides (.measurePicture bytes :: state.calls) bytes),
      state.noted (.measurePicture bytes)) :=
  runOn_consulted _ (fun calls => .ok (env.outside.sides calls bytes)) state

theorem runOn_transformPicture (bytes : ByteArray) (change : Pictures.Transform) (state : State) :
    (transformPicture env bytes change).runOn state =
      (match env.outside.backendFault (.transformPicture bytes change :: state.calls) with
        | some cause => .error cause
        | none =>
          env.outside.transform (.transformPicture bytes change :: state.calls) bytes change,
      state.noted (.transformPicture bytes change)) :=
  runOn_consulted _ (fun calls => env.outside.transform calls bytes change) state

theorem judgeSides_cases (limits : Constraints) (mimeType : String) (bytes : ByteArray)
    {result : Except BackendFailure Constraints.Verdict} {after : State}
    (ran : (if (isImageType mimeType && limits.hasBounds) = true then
        (do return limits.judgeSides mimeType (← measurePicture env bytes))
      else pure (.valid mimeType) : Act BackendFailure Constraints.Verdict).runOn state =
      (result, after)) :
    (∃ cause, result = .error cause ∧ ServiceFailed env after.calls cause) ∨
      result = .ok (if (isImageType mimeType && limits.hasBounds) = true then
          limits.judgeSides mimeType (env.outside.sides (.measurePicture bytes :: state.calls) bytes)
        else .valid mimeType) := by
  by_cases bounded : (isImageType mimeType && limits.hasBounds) = true
  · rw [if_pos bounded] at ran ⊢
    rw [runOn_bind, runOn_measurePicture] at ran
    cases fault : env.outside.backendFault (.measurePicture bytes :: state.calls) with
    | some cause =>
      rw [fault, Prod.mk.injEq] at ran
      obtain ⟨rfl, rfl⟩ := ran
      exact .inl ⟨cause, rfl, fault, _, _, rfl, .inl rfl⟩
    | none =>
      rw [fault] at ran
      exact .inr (congrArg Prod.fst ran).symm
  · rw [if_neg bounded] at ran ⊢
    exact .inr (congrArg Prod.fst ran).symm

theorem judge_cases (limits : Constraints) (bytes : ByteArray)
    {result : Except BackendFailure Constraints.Verdict} {after : State}
    (ran : (limits.judge bytes.size (detectType env bytes) (measurePicture env bytes)).runOn state =
      (result, after)) :
    (∃ cause, result = .error cause ∧ ServiceFailed env after.calls cause) ∨
      result = .ok (verdictOn env limits bytes state.calls) := by
  unfold Constraints.judge at ran
  unfold verdictOn Constraints.judge
  rw [runOn_bind, runOn_detectType] at ran
  cases fault : env.outside.backendFault (.detectType bytes :: state.calls) with
  | some cause =>
    rw [fault, Prod.mk.injEq] at ran
    obtain ⟨rfl, rfl⟩ := ran
    exact .inl ⟨cause, rfl, fault, _, _, rfl, .inl rfl⟩
  | none =>
    rw [fault] at ran
    simp only [pure_bind]
    -- Type, size and sides are looked at in this order; only the sides need another service.
    cases answer : env.outside.mimeType (.detectType bytes :: state.calls) bytes with
    | none =>
      rw [answer] at ran
      exact .inr (congrArg Prod.fst ran).symm
    | some mimeType =>
      rw [answer] at ran
      have sides := @judgeSides_cases env (state.noted (.detectType bytes)) limits mimeType bytes
        result after
      dsimp only at ran ⊢
      by_cases listed : mimeType ∉ limits.allowedTypes
      · rw [if_pos listed] at ran ⊢
        exact .inr (congrArg Prod.fst ran).symm
      · rw [if_neg listed] at ran ⊢
        cases largest : limits.maxSizeBytes with
        | none =>
          rw [largest] at ran
          exact sides ran
        | some limit =>
          rw [largest] at ran
          dsimp only at ran ⊢
          by_cases large : limit.toNat < bytes.size
          · rw [if_pos large] at ran ⊢
            exact .inr (congrArg Prod.fst ran).symm
          · rw [if_neg large] at ran ⊢
            exact sides ran

/-! ## What each part of the plan is refused for -/

variable {failure : FileFailure} {after : State}

theorem enforce_error (ran : (enforce env request).runOn state = (.error failure, after)) :
    Refusal env request state after.calls failure := by
  unfold enforce at ran
  cases given : request.constraints with
  | none =>
    rw [given] at ran
    cases ran
  | some limits =>
    rw [given] at ran
    rcases of_bind_error ran with asking | ⟨verdict, middle, asking, rest⟩
    · obtain ⟨cause, judging, rfl⟩ := of_mapFailure_error asking
      rcases judge_cases limits request.bytes judging with ⟨other, same, failed⟩ | bad
      · obtain rfl : cause = other := Except.error.inj same
        exact .service failed
      · cases bad
    · rcases judge_cases limits request.bytes (of_mapFailure_ok asking) with ⟨_, bad, -⟩ | judged
      · cases bad
      · obtain rfl : verdict = verdictOn env limits request.bytes state.calls :=
          Except.ok.inj judged
        cases refused : (verdictOn env limits request.bytes state.calls).failure? limits with
        | none =>
          rw [refused] at rest
          cases rest
        | some other =>
          rw [refused] at rest
          obtain rfl : other = failure := Except.error.inj (congrArg Prod.fst rest)
          exact .limits given refused

theorem consult_error {α β : Type} {act : Act BackendFailure α} {call : Call}
    {answer : Except BackendFailure α} {next : α → Act FileFailure β}
    (asks : act.runOn state = (match env.outside.backendFault (call :: state.calls) with
      | some cause => .error cause
      | none => answer, state.noted call))
    (inspects : call.service? = some "validator" ∨ call.service? = some "images")
    (ran : (onServices act >>= next).runOn state = (.error failure, after)) :
    (∃ cause, failure = .ofBackend cause ∧ ServiceFailed env after.calls cause) ∨
      (∃ cause, answer = .error cause ∧ failure = .ofBackend cause ∧ after = state.noted call) ∨
      ∃ value, answer = .ok value ∧
        (next value).runOn (state.noted call) = (.error failure, after) := by
  rw [runOn_bind, onServices, runOn_mapFailure, asks] at ran
  cases fault : env.outside.backendFault (call :: state.calls) with
  | some cause =>
    rw [fault, mapError_error, Prod.mk.injEq, Except.error.injEq] at ran
    obtain ⟨rfl, rfl⟩ := ran
    exact .inl ⟨cause, rfl, fault, call, state.calls, rfl, inspects⟩
  | none =>
    rw [fault] at ran
    cases answer with
    | error cause =>
      rw [mapError_error, Prod.mk.injEq, Except.error.injEq] at ran
      exact .inr (.inl ⟨cause, rfl, ran.1.symm, ran.2.symm⟩)
    | ok value => exact .inr (.inr ⟨value, rfl, ran⟩)

theorem recognise_error
    (ran : (recognise env request.bytes).runOn state = (.error failure, after)) :
    Refusal env request start after.calls failure := by
  rcases consult_error (runOn_detectType request.bytes state) (.inl rfl) ran with
    ⟨cause, rfl, failed⟩ | ⟨_, bad, -⟩ | ⟨detected, answer, rest⟩
  · exact .service failed
  · cases bad
  · cases detected with
    | none =>
      obtain ⟨refused, rfl⟩ := Prod.mk.inj rest
      obtain rfl : .typeRefused none [] = failure := Except.error.inj refused
      exact .unrecognized rfl (Except.ok.inj answer)
    | some mimeType => cases rest

theorem prepare_error {mimeType : String}
    (ran : (prepare env request mimeType).runOn state = (.error failure, after)) :
    Refusal env request start after.calls failure := by
  unfold prepare at ran
  split_ifs at ran
  · cases given : request.transform with
    | some change =>
      rw [given] at ran
      rcases consult_error (runOn_transformPicture request.bytes change state) (.inr rfl) ran with
        ⟨cause, rfl, failed⟩ | ⟨cause, answer, rfl, rfl⟩ | ⟨made, answer, rest⟩
      · exact .service failed
      · exact .transform given rfl answer
      · cases rest
    | none =>
      rw [given] at ran
      rcases consult_error (runOn_measurePicture request.bytes state) (.inl rfl)
        ran with ⟨cause, rfl, failed⟩ | ⟨_, bad, -⟩ | ⟨sides, answer, rest⟩
      · exact .service failed
      · cases bad
      · cases rest
  · cases ran

theorem refuseOccupied_error (answers : env.outside.Answers "files") {path : Path}
    {existing : Option File}
    (ran : (refuseOccupied env path existing).runOn state = (.error failure, after)) :
    failure = .records (.alreadyExists ("a file already exists at " ++ path.text)) ∧
      ∃ occupant, state.files.findByPath? path.text = some occupant ∧ existing ≠ some occupant := by
  have found := question_answered env
    (answers (.findFileByPath path.text) state.calls rfl rfl) (·.findByPath? path.text)
  rw [refuseOccupied, fileByPath, runOn_bind_ok found] at ran
  cases there : state.files.findByPath? path.text with
  | none =>
    rw [there] at ran
    cases ran
  | some occupant =>
    rw [there] at ran
    dsimp only at ran
    split_ifs at ran with same
    · cases ran
    · obtain rfl : _ = failure := Except.error.inj (congrArg Prod.fst ran)
      refine ⟨rfl, occupant, rfl, ?_⟩
      rintro rfl
      exact same rfl

/-- A plan is refused for one of the causes, as long as the questions for it are answered. -/
theorem plan_refused (answers : env.outside.Answers "files")
    (ran : (plan env request).runOn state = (.error failure, after)) :
    Refusal env request state after.calls failure := by
  rcases of_bind_error ran with refused | ⟨_, first, enforced, rest⟩
  · exact enforce_error refused
  rcases of_bind_error rest with refused | ⟨mimeType, second, recognised, rest⟩
  · exact recognise_error refused
  rcases of_bind_error rest with refused | ⟨prepared, third, readied, rest⟩
  · exact prepare_error refused
  have same : third.files = state.files := by
    rw [files_after_looking (keeps_prepare env request mimeType) readied,
      files_after_looking (keeps_recognise env request.bytes) recognised,
      files_after_looking (keeps_enforce env request) enforced]
  have chosen := question_answered env
    (answers (.findCurrentFile request.owner) third.calls rfl rfl) (·.current? request.owner)
  rw [fileToReplace, bind_assoc, currentFile, runOn_bind_ok chosen, pure_bind] at rest
  rcases of_bind_error rest with unplaced | ⟨path, fourth, placed, rest⟩
  · rw [runOn_ofExcept, Prod.mk.injEq] at unplaced
    exact .place unplaced.1
  rw [runOn_ofExcept, Prod.mk.injEq] at placed
  obtain ⟨place, rfl⟩ := placed
  rcases of_bind_error rest with refused | ⟨_, last, _, bad⟩
  · obtain ⟨rfl, occupant, found, stays⟩ := refuseOccupied_error answers refused
    rw [State.noted_files, same] at found
    rw [same] at stays
    have here : occupant.path.text = path.text := by simpa using List.find?_some found
    exact .occupied place (List.mem_of_find?_eq_some found) (Path.text_injective here) stays
  · cases bad

theorem plan_error (reliable : env.outside.Reliable "files")
    (ran : (plan env request).runOn state = (.error failure, after)) :
    Refusal env request state after.calls failure := plan_refused reliable.answers ran

end Plan

/-! ## Once it writes -/

section CarryOut

variable {env : Env} {state : State} {request : UploadRequest} {made : Plan} {id : Uuid}

theorem carryOut_ok (files : env.outside.Reliable "files")
    (storage : env.outside.Reliable "storage") (inMemory : state.InMemory)
    (ids : (state.files.records.map (·.id)).Nodup) (fits : made.Fits id state.files.records)
    (strategy : ReplaceStrategy) :
    ∃ taken, ((carryOut env strategy request id made).runOn state).1 = .ok taken := by
  cases existing : made.existing with
  | some old =>
    cases strategy with
    | deleteThenUpload => exact ⟨_, (replaced_early files storage inMemory ids fits existing).result⟩
    | uploadThenSwap => exact ⟨_, (replaced_late files storage inMemory ids fits existing).result⟩
  | none =>
    obtain ⟨blobs, inMemory⟩ := inMemory
    obtain ⟨stored, first, kept, -⟩ := exists_stored storage inMemory request made
    have vacant := fits.vacant fun old same => by rw [existing] at same; cases same
    obtain ⟨last, second, -⟩ :=
      exists_created files (made.file env request id) (kept ▸ fits.fresh) (kept ▸ vacant)
    have entered : (enter env strategy (made.file env request id) none).runOn stored =
        (.ok (), last) := by
      cases strategy <;> exact second
    have room : (makeRoom env strategy none).runOn state = (.ok (), state) := by
      cases strategy <;> rfl
    rw [carryOut, existing, runOn_bind_ok room, runOn_bind_ok first, runOn_bind_ok entered]
    exact ⟨_, rfl⟩

end CarryOut

/-- Where neither store refuses a call, an upload that fails does so for one of the causes and
has changed nothing: it has only asked. -/
theorem upload_refused {env : Env} (files : env.outside.Reliable "files")
    (storage : env.outside.Reliable "storage") {state after : State} (inMemory : state.InMemory)
    (ids : (state.files.records.map (·.id)).Nodup)
    (paths : (state.files.records.map (·.path)).Nodup) {request : UploadRequest} {id : Uuid}
    (fresh : ∀ other ∈ state.files.records, other.id ≠ id) {strategy : ReplaceStrategy}
    {failure : FileFailure}
    (failed : (upload env strategy request id).runOn state = (.error failure, after)) :
    Refusal env request state after.calls failure ∧
      ∃ added, after = { state with calls := added ++ state.calls } ∧
        ∀ call ∈ added, call.looks = true := by
  rw [upload_eq] at failed
  rcases of_bind_error failed with refused | ⟨made, middle, planned, rest⟩
  · have looked := keeps_plan env request state
    rw [refused] at looked
    exact ⟨plan_error files refused, looked⟩
  · have spared := spared_of_run (keeps_plan env request).spares planned
    have same : middle.files = state.files := spared.1.1
    -- With a plan the writing half ends well, so that it is not the one that has failed.
    obtain ⟨taken, well⟩ := @carryOut_ok env middle request made id files storage
      (Frame.inMemory_of_sparing spared inMemory) (same ▸ ids)
      (same ▸ plan_fits ids paths fresh planned) strategy
    rw [rest] at well
    cases well

/-- A note is refused at the place of one that it does not replace, and one without a name is
refused although it would replace the old one. -/
theorem upload_refused_note :
    (∃ after, (upload noteEnv .deleteThenUpload
        { noteRequest "note.txt" with replaceExisting := false } (.ofNat 2)).runOn noteStored =
          (.error (.records (.alreadyExists
            "a file already exists at test/1970/01/user/tenant/note.txt")), after) ∧
        after.files = noteStored.files) ∧
      ∃ after, (upload noteEnv .deleteThenUpload (noteRequest "") (.ofNat 2)).runOn noteStored =
          (.error (.records (.invalid "filename must not be empty")), after) ∧
        after.files = noteStored.files := by
  have unchanged (request : UploadRequest) (failure : FileFailure)
      (failed : ((upload noteEnv .deleteThenUpload request (.ofNat 2)).runOn noteStored).1 =
        .error failure) :
      ∃ after, (upload noteEnv .deleteThenUpload request (.ofNat 2)).runOn noteStored =
        (.error failure, after) ∧ after.files = noteStored.files := by
    have inMemory : noteStored.InMemory := ⟨_, rfl⟩
    obtain ⟨-, added, moved, -⟩ := upload_refused (Outside.plain_reliable "files")
      (Outside.plain_reliable "storage") inMemory (by simp [noteStored]) (by simp [noteStored])
      (by decide) (Prod.ext failed rfl)
    exact ⟨_, Prod.ext failed rfl, by rw [moved]⟩
  exact ⟨unchanged _ _ (by decide +kernel), unchanged _ _ (by decide +kernel)⟩

end Depot.Files
