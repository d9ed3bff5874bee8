import Depot.Proofs.Files.Acceptance
import Depot.Proofs.Rows.Files

/-!
# Files that no row can hold

The columns of sizes and sides are narrower than the numbers that a content can have.  Where
they are the only limit of the records, an upload is invalid for one of two reasons: its
place, which is found out while nothing has been written, or the numbers of the new file,
which are looked at when it is recorded.  By then its content is stored, and a file that
was to go first has gone.
-/

set_option autoImplicit false

namespace Depot

/-- Why no row can hold a file. -/
def Rows.FileRow.failure? (file : Files.File) : Option Failure :=
  match leadingValues file with
  | .ok _ => none
  | .error failure => some failure

theorem Rows.FileRow.not_fits {file : Files.File} {failure : Failure}
    (refused : failure? file = some failure) : ¬ Fits file := by
  intro fits
  rw [failure?, leadingValues_fits fits] at refused
  cases refused

/-- The records take every call but the creation of a file that no row can hold. -/
structure Outside.NarrowRecords (outside : Outside) : Prop where
  creation : ∀ file earlier,
    outside.recordFault (.createFile file :: earlier) = Rows.FileRow.failure? file
  others : ∀ call earlier, call.service? = some "files" → (∀ file, call ≠ .createFile file) →
    outside.recordFault (call :: earlier) = none

theorem Outside.NarrowRecords.answers {outside : Outside} (narrow : outside.NarrowRecords) :
    outside.Answers "files" := by
  intro call earlier goes looks
  refine narrow.others call earlier goes ?_
  rintro file rfl
  cases looks

namespace Files

open Act

/-- The file that goes before the new content comes. -/
def goingFirst? (strategy : ReplaceStrategy) (existing : Option File) : Option File :=
  existing.filter fun _ => strategy = .deleteThenUpload

/-- The catalogue without the record of a file, if one goes. -/
def Catalogue.without (files : Catalogue) (gone : Option File) : Catalogue :=
  gone.elim files fun old => files.erase old.id

/-- The new content has come, and nothing else has changed but that a file went first. -/
structure Unrecorded (made : Plan) (gone : Option File) (before after : State) : Prop where
  files : after.files = before.files.without gone
  here : after.content? made.path.text = some made.content
  cleared : ∀ old, gone = some old → old.path ≠ made.path → after.content? old.path.text = none
  untouched : ∀ path, path ≠ made.path.text → (∀ old, gone = some old → path ≠ old.path.text) →
    after.content? path = before.content? path

/-- How an upload comes to be invalid, and what it leaves then.  What it leaves is not told where
the new file was to take the very place of one that goes later. -/
inductive Invalidated (env : Env) (strategy : ReplaceStrategy) (request : UploadRequest) (id : Uuid)
    (reason : String) (state after : State) : Prop
  | place (unplaced : placeFor env request = .error (.records (.invalid reason)))
    (looked : Frame.looking.Allows state after)
  | numbers {asked : List Call} {made : Plan} (place : placeFor env request = .ok made.path)
    (prepares : Prepares env request asked made.prepared) (since : state.calls <:+ asked)
    (exceeds : ¬ Rows.FileRow.Fits (made.file env request id))
    (refused : Rows.FileRow.failure? (made.file env request id) = some (.invalid reason))
    (left : (strategy = .uploadThenSwap →
        ∀ old, state.files.givingWay? request = some old → old.path ≠ made.path) →
      Unrecorded made (goingFirst? strategy (state.files.givingWay? request)) state after)

section Invalid

variable {env : Env} {request : UploadRequest} {made : Plan} {strategy : ReplaceStrategy}
  {id : Uuid} {state after : State} {file : File} {existing : Option File} {reason : String}

/-! ## While nothing is written -/

theorem Refusal.unplaced {calls : List Call}
    (refusal : Refusal env request state calls (.records (.invalid reason))) :
    placeFor env request = .error (.records (.invalid reason)) := by
  generalize named : FileFailure.records (.invalid reason) = failure at refusal
  cases refusal with
  | service failed => cases named
  | @limits limits _ given verdict =>
    subst named
    cases judged : verdictOn env limits request.bytes state.calls <;>
      rw [judged, Constraints.Verdict.failure?] at verdict <;> cases verdict
  | unrecognized last unknown => cases named
  | transform given last failed => cases named
  | place unplaced => exact unplaced
  | occupied place present here stays => cases named

/-! ## Up to the new record -/

theorem insert_error {files : Catalogue} {failure : Failure}
    (refused : files.insert file = .error failure) : ∃ what, failure = .alreadyExists what := by
  unfold Catalogue.insert at refused
  split_ifs at refused <;> exact ⟨_, (Except.error.inj refused).symm⟩

section Narrow

variable (narrow : env.outside.NarrowRecords)

include narrow

theorem createRecord_invalid
    (ran : (onRecords (createRecord env file)).runOn state =
      (.error (.records (.invalid reason)), after)) :
    Rows.FileRow.failure? file = some (.invalid reason) ∧
      after = state.noted (.createFile file) := by
  obtain ⟨cause, ran, named⟩ := of_mapFailure_error ran
  obtain rfl : .invalid reason = cause := FileFailure.records.inj named
  rw [runOn_createRecord, narrow.creation] at ran
  cases unfit : Rows.FileRow.failure? file with
  | some failure =>
    rw [unfit, Prod.mk.injEq, Except.error.injEq] at ran
    exact ⟨congrArg some ran.1, ran.2.symm⟩
  | none =>
    rw [unfit] at ran
    cases inserted : state.files.insert file with
    | ok files =>
      rw [inserted] at ran
      cases ran
    | error failure =>
      obtain ⟨what, rfl⟩ := insert_error inserted
      rw [inserted] at ran
      cases ran

theorem runOn_deleteRecord_narrow (old : Uuid) :
    (onRecords (deleteRecord env old)).runOn state =
      (.ok (state.files.findById? old),
        { state.noted (.deleteFile old) with files := state.files.erase old }) := by
  refine runOn_mapFailure_ok ?_
  rw [runOn_deleteRecord, narrow.others (.deleteFile old) state.calls rfl (by simp)]

/-- Whichever way the new file is recorded, it is the one that is invalid; unless it was to take
the very place of the old one, the records and the contents have stayed until then. -/
theorem enter_invalid
    (ran : (enter env strategy file existing).runOn state =
      (.error (.records (.invalid reason)), after)) :
    Rows.FileRow.failure? file = some (.invalid reason) ∧
      ((strategy = .uploadThenSwap → ∀ old, existing = some old → old.path ≠ file.path) →
        after.files = state.files ∧ after.blobs = state.blobs) := by
  have created (ran : (onRecords (createRecord env file)).runOn state =
      (.error (.records (.invalid reason)), after)) :
      Rows.FileRow.failure? file = some (.invalid reason) ∧
        ((strategy = .uploadThenSwap → ∀ old, existing = some old → old.path ≠ file.path) →
          after.files = state.files ∧ after.blobs = state.blobs) := by
    obtain ⟨unfit, rfl⟩ := createRecord_invalid narrow ran
    exact ⟨unfit, fun _ => ⟨rfl, rfl⟩⟩
  unfold enter at ran
  split at ran
  · rename_i old
    unfold swap at ran
    split_ifs at ran with here
    · -- The old record has gone by the time the new one is refused.
      rw [runOn_bind_ok (runOn_deleteRecord_narrow narrow old.id)] at ran
      refine ⟨(createRecord_invalid narrow ran).1, fun elsewhere => ?_⟩
      exact absurd here.symm (elsewhere rfl old rfl)
    · rcases of_bind_error ran with early | ⟨_, middle, -, rest⟩
      · exact created early
      · cases rest
  · exact created ran

theorem makeRoom_valid :
    (makeRoom env strategy existing).runOn state ≠
      (.error (.records (.invalid reason)), after) := by
  intro ran
  unfold makeRoom at ran
  split at ran
  · rename_i old
    rcases of_bind_error ran with early | ⟨_, middle, -, rest⟩
    · obtain ⟨cause, -, named⟩ := of_mapFailure_error early
      cases named
    · rw [runOn_bind_ok (runOn_deleteRecord_narrow narrow old.id)] at rest
      cases rest
  · cases ran

theorem makeRoom_ok {blobs : Blobs.Memory} (inMemory : state.blobs = .memory blobs)
    (ran : (makeRoom env strategy existing).runOn state = (.ok (), after)) :
    after.files = state.files.without (goingFirst? strategy existing) ∧
      ∃ left, after.blobs = .memory left ∧
        left.get? = (goingFirst? strategy existing).elim blobs.get? fun old =>
          Function.update blobs.get? old.path.text none := by
  unfold makeRoom at ran
  split at ran
  · rename_i old
    obtain ⟨_, emptied, removing, rest⟩ := of_bind_ok ran
    have removing := of_mapFailure_ok removing
    rw [runOn_deleteBlob env inMemory] at removing
    cases fault : env.outside.backendFault (.deleteBlob old.path.text :: state.calls) with
    | some cause =>
      rw [fault] at removing
      cases removing
    | none =>
      rw [fault, Prod.mk.injEq] at removing
      obtain ⟨-, rfl⟩ := removing
      rw [runOn_bind_ok (runOn_deleteRecord_narrow narrow old.id), runOn_pure,
        Prod.mk.injEq] at rest
      obtain ⟨-, rfl⟩ := rest
      exact ⟨rfl, _, rfl, Blobs.Memory.get?_erase blobs old.path.text⟩
  · rename_i late
    obtain ⟨-, rfl⟩ := Prod.mk.inj ran
    have nobody : goingFirst? strategy existing = none := by
      cases existing with
      | none => rfl
      | some old =>
        cases strategy with
        | uploadThenSwap => rfl
        | deleteThenUpload => exact absurd rfl (late old rfl)
    rw [nobody]
    exact ⟨rfl, blobs, inMemory, rfl⟩

theorem carryOut_invalid (inMemory : state.InMemory)
    (ran : (carryOut env strategy request id made).runOn state =
      (.error (.records (.invalid reason)), after)) :
    Rows.FileRow.failure? (made.file env request id) = some (.invalid reason) ∧
      ((strategy = .uploadThenSwap →
          ∀ old, made.existing = some old → old.path ≠ made.path) →
        Unrecorded made (goingFirst? strategy made.existing) state after) := by
  obtain ⟨blobs, inMemory⟩ := inMemory
  rcases of_bind_error ran with early | ⟨_, cleared, making, rest⟩
  · exact absurd early (makeRoom_valid narrow)
  obtain ⟨less, left, memory, contents⟩ := makeRoom_ok narrow inMemory making
  rcases of_bind_error rest with early | ⟨_, stored, storing, rest⟩
  · obtain ⟨cause, -, named⟩ := of_mapFailure_error early
    cases named
  obtain ⟨-, same, ⟨_, bad, -⟩ | ⟨-, -, put⟩⟩ := storeContent_ends memory storing
  · cases bad
  rcases of_bind_error rest with entering | ⟨_, _, -, bad⟩
  · obtain ⟨unfit, stayed⟩ := enter_invalid narrow entering
    refine ⟨unfit, fun elsewhere => ?_⟩
    obtain ⟨files, kept⟩ := stayed elsewhere
    have content : after.content? =
        Function.update left.get? made.path.text (some made.content) := by
      rw [State.content?_of_memory (kept.trans put), Blobs.Memory.get?_put]
      rfl
    have before : state.content? = blobs.get? := State.content?_of_memory inMemory
    constructor
    · rw [files, same, less]
    · rw [content, Function.update_self]
    · intro old gone apart
      have away : old.path.text ≠ made.path.text := fun here => apart (Path.text_injective here)
      rw [content, Function.update_of_ne away, contents, gone]
      exact Function.update_self ..
    · intro path away others
      rw [content, Function.update_of_ne away, contents, before]
      cases going : goingFirst? strategy made.existing with
      | none => rfl
      | some old => exact Function.update_of_ne (others old going) _ _
  · cases bad

end Narrow

/-- Where the columns of a file are the only limit of the records, an upload that is invalid has
only looked, because it has no place, or it has stored the content of a file that no row can
hold.  Then no record has joined; none has gone either, and no other content, unless a file was to
go first: one that was to be swapped is as it was, if the new file lies elsewhere. -/
theorem upload_invalid (narrow : env.outside.NarrowRecords) (inMemory : state.InMemory)
    (failed : (upload env strategy request id).runOn state =
      (.error (.records (.invalid reason)), after)) :
    Invalidated env strategy request id reason state after ∧
      (strategy = .uploadThenSwap → ∀ old, state.files.givingWay? request = some old →
        placeFor env request ≠ .ok old.path →
          after.files = state.files ∧
            after.content? old.path.text = state.content? old.path.text) := by
  rw [upload_eq] at failed
  rcases of_bind_error failed with refused | ⟨made, middle, ran, rest⟩
  · have looked := (keeps_plan env request).allows refused
    obtain ⟨files, blobs, -⟩ := Frame.sparingFiles_of_looking looked
    refine ⟨.place (plan_refused narrow.answers refused).unplaced looked, fun _ old _ _ => ?_⟩
    exact ⟨files, by rw [State.content?_of_blobs blobs]⟩
  · have planned := planned_of_run ran
    obtain ⟨asked, prepares, since, -⟩ := plan_prepares ran
    obtain ⟨unfit, left⟩ := carryOut_invalid narrow (planned.inMemory inMemory) rest
    rw [planned.existing] at left
    have remains (elsewhere : strategy = .uploadThenSwap →
        ∀ old, state.files.givingWay? request = some old → old.path ≠ made.path) :
        Unrecorded made (goingFirst? strategy (state.files.givingWay? request)) state after := by
      obtain ⟨files, here, cleared, untouched⟩ := left elsewhere
      rw [planned.files] at files
      rw [planned.content] at untouched
      exact ⟨files, here, cleared, untouched⟩
    refine ⟨.numbers planned.place prepares since (Rows.FileRow.not_fits unfit) unfit remains, ?_⟩
    rintro rfl old giving away
    have apart : old.path ≠ made.path := by
      intro here
      rw [here] at away
      exact away planned.place
    have nobody : goingFirst? .uploadThenSwap (state.files.givingWay? request) = none := by
      rw [giving]
      rfl
    have stays := remains fun _ other also => by
      obtain rfl : old = other := Option.some.inj (giving.symm.trans also)
      exact apart
    rw [nobody] at stays
    exact ⟨stays.files, stays.untouched _ (fun same => apart (Path.text_injective same))
      fun other bad => by cases bad⟩

/-! ## A picture that is too wide -/

/-- The note's surroundings, where every content is a picture of three thousand million by one,
and the columns limit the records. -/
def wideEnv : Env :=
  { noteEnv with
    outside := { Outside.plain with
      mimeType := fun _ _ => some "image/png"
      sides := fun _ _ => some ⟨3000000000, 1⟩
      recordFault := fun calls =>
        match calls with
        | .createFile file :: _ => Rows.FileRow.failure? file
        | _ => none } }

theorem narrowRecords_wide : wideEnv.outside.NarrowRecords where
  creation _ _ := rfl
  others call earlier _ other := by
    cases call with
    | createFile file => exact absurd rfl (other file)
    | _ => rfl

def tooWide : String := "width out of range: number too large to fit in target type"

/-- A picture that is too wide leaves the note that it was to be swapped for, and its own content
beside it. -/
theorem upload_invalid_wide :
    ∃ after, (upload wideEnv .uploadThenSwap (noteRequest "wide.png") (.ofNat 2)).runOn noteStored =
        (.error (.records (.invalid tooWide)), after) ∧
      after.files = noteStored.files ∧
      after.content? tenantsNote.path.text = noteStored.content? tenantsNote.path.text ∧
      after.content? "test/1970/01/user/tenant/wide.png" ≠ none := by
  have invalid : ((upload wideEnv .uploadThenSwap (noteRequest "wide.png") (.ofNat 2)).runOn
      noteStored).1 = .error (.records (.invalid tooWide)) := by decide +kernel
  have giving : noteStored.files.givingWay? (noteRequest "wide.png") = some tenantsNote := by
    decide +kernel
  obtain ⟨_, keeps⟩ := upload_invalid narrowRecords_wide ⟨_, rfl⟩ (Prod.ext invalid rfl)
  obtain ⟨files, content⟩ := keeps rfl tenantsNote giving fun place =>
    absurd (placeFor_ok place).2.2.2 (by decide)
  refine ⟨_, Prod.ext invalid rfl, files, content, ?_⟩
  rw [ne_eq, ← Option.isNone_iff_eq_none]
  decide +kernel

/-- Where the note has to go first, a picture that is too wide is invalid too: the note has gone
with its content, and the content of the picture is stored without a record. -/
theorem wide_loses_note :
    wideEnv.outside.NarrowRecords ∧ noteStored.InMemory ∧
      noteStored.files.current? (noteRequest "wide.png").owner = some tenantsNote ∧
      ∃ after, (upload wideEnv .deleteThenUpload (noteRequest "wide.png") (.ofNat 2)).runOn
          noteStored = (.error (.records (.invalid tooWide)), after) ∧
        after.files.records = [] ∧ after.content? tenantsNote.path.text = none ∧
        noteStored.content? tenantsNote.path.text ≠ none ∧
        after.content? "test/1970/01/user/tenant/wide.png" ≠ none ∧
        noteStored.content? "test/1970/01/user/tenant/wide.png" = none := by
  refine ⟨narrowRecords_wide, ⟨_, rfl⟩, by decide +kernel, _, Prod.ext (by decide +kernel) rfl,
    by decide +kernel, ?_⟩
  simp only [ne_eq, ← Option.isNone_iff_eq_none]
  decide +kernel

end Invalid

end Files

end Depot
