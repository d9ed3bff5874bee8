import Depot.Proofs.Files.Acceptance
import Depot.Proofs.Files.Limits

/-!
# What is stored is within its limits

An upload has its content judged, then asks for its type again, then for its sides, so what is
recorded comes from other answers than those it was judged by.  Where an inspection tells the same
of a content whenever it is asked, a content is refused exactly if it does not meet the limits, and
what is recorded of an unchanged one meets them too, whatever stores and services do.
-/

set_option autoImplicit false

namespace Depot

open Files (Inspection)

/-- Whatever has been called before, the services tell of a content what an inspection tells. -/
def Outside.Inspects (outside : Outside) (inspection : Inspection) : Prop :=
  ∀ calls bytes, outside.mimeType calls bytes = inspection.mimeType bytes ∧
    outside.sides calls bytes = inspection.sides bytes

/-! ## Kinds of failures -/

/-- Whenever an action fails, its failure is of a kind. -/
def Act.FailsAs {ε α : Type} (kind : ε → Prop) (act : Act ε α) : Prop :=
  ∀ state failure after, act.runOn state = (.error failure, after) → kind failure

namespace Act.FailsAs

variable {ε ε' α β : Type} {kind : ε → Prop} {act : Act ε α} {next : α → Act ε β}

theorem pure (value : α) : (Pure.pure value : Act ε α).FailsAs kind := by
  rintro state failure after ⟨⟩

theorem throw {failure : ε} (one : kind failure) : (throw failure : Act ε α).FailsAs kind := by
  rintro state _ after ⟨⟩
  exact one

theorem ofExcept {result : Except ε α} (each : ∀ failure, result = .error failure → kind failure) :
    (Act.ofExcept result).FailsAs kind := by
  intro state failure after ran
  exact each failure (congrArg Prod.fst ran)

theorem bind_given (first : act.FailsAs kind)
    (second : ∀ value state after, act.runOn state = (.ok value, after) →
      (next value).FailsAs kind) : (act >>= next).FailsAs kind := by
  intro state failure after ran
  rcases of_bind_error ran with failed | ⟨value, middle, ended, failed⟩
  · exact first state failure after failed
  · exact second value state middle ended middle failure after failed

theorem bind (first : act.FailsAs kind) (second : ∀ value, (next value).FailsAs kind) :
    (act >>= next).FailsAs kind := bind_given first fun value _ _ _ => second value

theorem mapFailure {f : ε' → ε} {inner : Act ε' α} (each : ∀ cause, kind (f cause)) :
    (inner.mapFailure f).FailsAs kind := by
  intro state failure after ran
  obtain ⟨cause, -, rfl⟩ := of_mapFailure_error ran
  exact each cause

theorem outcome {inner : Act ε' α} : (inner.outcome : Act ε (Except ε' α)).FailsAs kind := by
  intro state failure after ran
  rw [runOn_outcome] at ran
  cases ran

end Act.FailsAs

namespace Files

open Act Constraints

def Metadata.sides? (data : Metadata) : Option Pictures.Sides :=
  match data.width, data.height with
  | some width, some height => some ⟨width, height⟩
  | _, _ => none

theorem Metadata.sides?_of_map (mimeType : String) (size : Nat) (sides : Option Pictures.Sides) :
    (⟨mimeType, size, sides.map (·.width), sides.map (·.height)⟩ : Metadata).sides? = sides := by
  cases sides <;> rfl

/-- A content is refused for what it is. -/
def FileFailure.RefusesContent : FileFailure → Prop
  | typeRefused .. | tooLarge .. | sidesRefused .. => True
  | _ => False

/-- A failure that has nothing to do with what the content is. -/
def FileFailure.SparesContent (failure : FileFailure) : Prop := ¬ failure.RefusesContent

variable {env : Env} {request : UploadRequest} {inspection : Inspection} {limits : Constraints}
  {mimeType : String}

/-! ## Failures beside the content -/

theorem spares_onServices {α : Type} {act : Act BackendFailure α} :
    (onServices act).FailsAs FileFailure.SparesContent := .mapFailure fun _ => id

theorem spares_onRecords {α : Type} {act : Act Failure α} :
    (onRecords act).FailsAs FileFailure.SparesContent := .mapFailure fun _ => id

theorem spares_unplaced {failure : FileFailure} (unplaced : placeFor env request = .error failure) :
    failure.SparesContent := by
  unfold placeFor at unplaced
  cases built : Path.build request.owner request.filename request.environment env.now with
  | error fault =>
    rw [built] at unplaced
    cases unplaced
    exact id
  | ok path =>
    rw [built] at unplaced
    cases unplaced

theorem spares_refuseOccupied (path : Path) (existing : Option File) :
    (refuseOccupied env path existing).FailsAs FileFailure.SparesContent := by
  refine .bind spares_onRecords fun occupant => ?_
  cases occupant with
  | none => exact .pure _
  | some occupant =>
    dsimp only
    split_ifs
    · exact .pure _
    · exact .throw id

theorem spares_swap (file old : File) :
    (swap env file old).FailsAs FileFailure.SparesContent := by
  unfold swap
  split_ifs
  · exact .bind spares_onRecords fun _ => spares_onRecords
  · exact .bind spares_onRecords fun _ => .bind .outcome fun _ => .bind .outcome fun _ => .pure _

theorem spares_carryOut (strategy : ReplaceStrategy) (id : Uuid) (made : Plan) :
    (carryOut env strategy request id made).FailsAs FileFailure.SparesContent := by
  refine .bind ?_ fun _ => .bind (.mapFailure fun _ bad => bad) fun _ => .bind ?_ fun _ => .pure _
  · unfold makeRoom
    split
    · exact .bind spares_onServices fun _ => .bind spares_onRecords fun _ => .pure _
    · exact .pure _
  · unfold enter
    split
    · exact spares_swap _ _
    · exact spares_onRecords

/-! ## Judging and recognising -/

section Inspected

variable (inspects : env.outside.Inspects inspection)

include inspects

theorem verdictOn_eq (limits : Constraints) (bytes : ByteArray) (calls : List Call) :
    verdictOn env limits bytes calls = inspection.validate limits bytes := by
  simp only [verdictOn, Inspection.validate, verdict, (inspects _ bytes).1, (inspects _ bytes).2]

theorem enforce_ok (given : request.constraints = some limits) {state after : State}
    (ran : (enforce env request).runOn state = (.ok (), after)) :
    ∃ mimeType, inspection.validate limits request.bytes = .valid mimeType := by
  unfold enforce at ran
  rw [given] at ran
  obtain ⟨verdict, middle, asking, rest⟩ := of_bind_ok ran
  rcases judge_cases limits request.bytes (of_mapFailure_ok asking) with ⟨_, bad, -⟩ | judged
  · cases bad
  · rw [verdictOn_eq inspects, Except.ok.injEq] at judged
    rw [← judged]
    cases verdict with
    | valid mimeType => exact ⟨mimeType, rfl⟩
    | unrecognizedType => cases rest
    | typeNotAllowed detected allowed => cases rest
    | tooLarge actual limit => cases rest
    | invalidSides reason => cases rest

theorem Refusal.spares (given : request.constraints = some limits)
    (known : inspection.mimeType request.bytes = some mimeType)
    (met : limits.Met mimeType request.bytes.size (inspection.sides request.bytes)) {state : State}
    {calls : List Call} {failure : FileFailure}
    (refusal : Refusal env request state calls failure) : failure.SparesContent := by
  cases refusal with
  | service failed => exact id
  | limits same verdict =>
    obtain rfl := Option.some.inj (given.symm.trans same)
    have valid : inspection.validate limits request.bytes = .valid mimeType :=
      verdict_eq_valid_iff.2 ⟨known, met⟩
    rw [verdictOn_eq inspects, valid] at verdict
    cases verdict
  | unrecognized last unknown =>
    rw [(inspects _ _).1, known] at unknown
    cases unknown
  | transform given last failed => exact id
  | place unplaced => exact spares_unplaced unplaced
  | occupied place present here stays => exact id

theorem spares_plan (given : request.constraints = some limits)
    (known : inspection.mimeType request.bytes = some mimeType)
    (met : limits.Met mimeType request.bytes.size (inspection.sides request.bytes)) :
    (plan env request).FailsAs FileFailure.SparesContent := by
  refine .bind (fun state failure after ran => ?_) fun _ =>
    .bind (fun state failure after ran => ?_) fun mimeType =>
    .bind (fun state failure after ran => ?_) fun prepared =>
    .bind ?_ fun existing => .bind (.ofExcept fun _ => spares_unplaced) fun path =>
    .bind (spares_refuseOccupied path existing) fun _ => .pure _
  · exact (enforce_error ran).spares inspects given known met
  · exact (@recognise_error env request state state failure after ran).spares inspects given known met
  · exact (@prepare_error env request state state failure after mimeType ran).spares inspects given
      known met
  · exact .bind spares_onRecords fun _ => .pure _

end Inspected

/-! ## What is recorded -/

theorem carryOut_file {strategy : ReplaceStrategy} {id : Uuid} {made : Plan} {state after : State}
    {file : File} {events : List Event}
    (ran : (carryOut env strategy request id made).runOn state = (.ok (file, events), after)) :
    file = (made.file env request id).detached := by
  obtain ⟨_, _, -, rest⟩ := of_bind_ok ran
  obtain ⟨_, _, -, rest⟩ := of_bind_ok rest
  obtain ⟨_, _, -, rest⟩ := of_bind_ok rest
  rw [runOn_pure, Prod.mk.injEq, Except.ok.injEq, Prod.mk.injEq] at rest
  exact rest.1.1.symm

theorem Prepares.described (inspects : env.outside.Inspects inspection) {asked : List Call}
    {prepared : Prepared} (prepares : Prepares env request asked prepared)
    (known : inspection.mimeType request.bytes = some mimeType)
    (unchanged : request.transform = none ∨ isImageType mimeType = false) :
    prepared.metadata.mimeType = mimeType ∧ prepared.metadata.size = request.bytes.size ∧
      (isImageType mimeType = true →
        prepared.metadata.sides? = inspection.sides request.bytes) := by
  cases prepares with
  | plain type image =>
    rw [(inspects _ _).1, known] at type
    obtain rfl := Option.some.inj type
    refine ⟨rfl, rfl, fun bad => ?_⟩
    rw [image] at bad
    cases bad
  | changed type image given answer =>
    rw [(inspects _ _).1, known] at type
    obtain rfl := Option.some.inj type
    rcases unchanged with bad | bad
    · rw [given] at bad
      cases bad
    · rw [image] at bad
      cases bad
  | measured type image given answer =>
    rw [(inspects _ _).1, known] at type
    obtain rfl := Option.some.inj type
    rw [(inspects _ _).2] at answer
    obtain rfl := answer
    exact ⟨rfl, rfl, fun _ => Metadata.sides?_of_map _ _ _⟩

/-- What an upload records has met its limits: the given content has, and if it is stored as it is,
so does all that is recorded of it.  No content is refused that meets them. -/
theorem upload_complies (inspects : env.outside.Inspects inspection) (strategy : ReplaceStrategy)
    (given : request.constraints = some limits) (id : Uuid) (state : State) :
    (∀ file events after, (upload env strategy request id).runOn state = (.ok (file, events), after) →
      ∃ mimeType, inspection.mimeType request.bytes = some mimeType ∧
        limits.Met mimeType request.bytes.size (inspection.sides request.bytes) ∧
        (request.transform = none ∨ isImageType mimeType = false →
          limits.Met file.metadata.mimeType file.metadata.size file.metadata.sides?)) ∧
    ∀ mimeType, inspection.mimeType request.bytes = some mimeType →
      limits.Met mimeType request.bytes.size (inspection.sides request.bytes) →
        ∀ failure after, (upload env strategy request id).runOn state = (.error failure, after) →
          ¬ failure.RefusesContent := by
  rw [upload_eq]
  constructor
  · intro file events after ran
    obtain ⟨made, middle, planned, rest⟩ := of_bind_ok ran
    obtain ⟨_, first, enforced, -⟩ := of_bind_ok planned
    obtain ⟨mimeType, valid⟩ := enforce_ok inspects given enforced
    obtain ⟨known, met⟩ := verdict_eq_valid_iff.1 valid
    obtain ⟨asked, prepares, -⟩ := plan_prepares planned
    refine ⟨mimeType, known, met, fun unchanged => ?_⟩
    obtain ⟨type, size, sides⟩ := prepares.described inspects known unchanged
    obtain rfl := carryOut_file rest
    constructor
    · exact type ▸ met.allowed
    · exact size ▸ met.size
    · rintro ⟨image, bounded⟩
      have same : (made.file env request id).detached.metadata.mimeType = mimeType := type
      rw [same] at image
      obtain ⟨read, there, within⟩ := met.sides ⟨image, bounded⟩
      exact ⟨read, (sides image).trans there, within⟩
  · intro mimeType known met failure after ran
    exact Act.FailsAs.bind (spares_plan inspects given known met)
      (fun made => spares_carryOut strategy id made) state failure after ran

/-- Services that take every content for a picture of sixty-four by forty-eight. -/
def smallEnv : Env :=
  { noteEnv with
    outside := { Outside.plain with
      mimeType := fun _ _ => some "image/png"
      sides := fun _ _ => some ⟨64, 48⟩ } }

/-- A picture that just meets its limits is stored, and what is recorded of it meets them. -/
theorem upload_complies_small :
    let limits : Constraints := {
      allowedMimeTypes := some ["image/png"], maxSizeBytes := some 9, minWidth := some 64,
      maxWidth := some 64, maxHeight := some 48 }
    let request := { noteRequest "small.png" with constraints := some limits }
    ∃ file events after, (upload smallEnv .uploadThenSwap request (.ofNat 2)).runOn noteStored =
        (.ok (file, events), after) ∧
      limits.Met file.metadata.mimeType file.metadata.size file.metadata.sides? := by
  intro limits request
  have inspects : smallEnv.outside.Inspects ⟨fun _ => some "image/png", fun _ => some ⟨64, 48⟩⟩ :=
    fun _ _ => ⟨rfl, rfl⟩
  have given : request.constraints = some limits := rfl
  have complies := upload_complies inspects .uploadThenSwap given (.ofNat 2) noteStored
  have well : ((upload smallEnv .uploadThenSwap request (.ofNat 2)).runOn noteStored).1.isOk =
      true := by decide +kernel
  cases ended : (upload smallEnv .uploadThenSwap request (.ofNat 2)).runOn noteStored with
  | mk result after =>
    rw [ended] at well
    cases result with
    | error failure => cases well
    | ok taken =>
      obtain ⟨_, -, -, stored⟩ := complies.1 taken.1 taken.2 after ended
      exact ⟨taken.1, taken.2, after, rfl, stored (.inl rfl)⟩

end Files

end Depot
