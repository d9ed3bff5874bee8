import Depot.Proofs.Files.Refusal
import Depot.Proofs.Files.Swap

/-!
# What an accepted upload leaves

Where neither store refuses a call, an upload that ends well is told in full: what the file
is that it gives, how the stored content comes from the given one, which record and which
content have gone, and that all others are as they were.  The two orders of writing leave
the same.
-/

set_option autoImplicit false

namespace Depot.Files

open Act

/-- How a content becomes what is stored, with the calls up to the last one that was asked for it:
a picture is changed as asked for or measured, and anything else is stored as it is. -/
inductive Prepares (env : Env) (request : UploadRequest) : List Call → Prepared → Prop
  | plain {earlier : List Call} {mimeType : String}
    (type : env.outside.mimeType (.detectType request.bytes :: earlier) request.bytes =
      some mimeType)
    (image : isImageType mimeType = false) :
    Prepares env request (.detectType request.bytes :: earlier)
      ⟨request.bytes, mimeType, none, none⟩
  | changed {earlier : List Call} {mimeType : String} {change : Pictures.Transform}
    {made : Pictures.Rendition}
    (type : env.outside.mimeType (.detectType request.bytes :: earlier) request.bytes =
      some mimeType)
    (image : isImageType mimeType = true) (given : request.transform = some change)
    (answer : env.outside.transform
      (.transformPicture request.bytes change :: .detectType request.bytes :: earlier)
      request.bytes change = .ok made) :
    Prepares env request
      (.transformPicture request.bytes change :: .detectType request.bytes :: earlier)
      ⟨made.bytes, made.mimeType, some made.width, some made.height⟩
  | measured {earlier : List Call} {mimeType : String} {sides : Option Pictures.Sides}
    (type : env.outside.mimeType (.detectType request.bytes :: earlier) request.bytes =
      some mimeType)
    (image : isImageType mimeType = true) (given : request.transform = none)
    (answer : env.outside.sides
      (.measurePicture request.bytes :: .detectType request.bytes :: earlier) request.bytes =
      sides) :
    Prepares env request (.measurePicture request.bytes :: .detectType request.bytes :: earlier)
      ⟨request.bytes, mimeType, sides.map (·.width), sides.map (·.height)⟩

/-- The records that an upload leaves where they are. -/
def Catalogue.staying (files : Catalogue) (request : UploadRequest) : List File :=
  files.records.filter fun other => (files.givingWay? request).map (·.id) ≠ some other.id

/-- What an upload that ends well has given and what it leaves. -/
structure Accepted (env : Env) (request : UploadRequest) (id : Uuid) (state : State) (file : File)
    (events : List Event) (after : State) : Prop where
  id : file.id = id
  owner : file.owner = request.owner
  filename : file.filename = request.filename
  path : Path.build request.owner request.filename request.environment env.now = .ok file.path
  entityType : file.path.entityType = file.owner.entityType
  entityId : file.path.entityId = file.owner.entityId
  lastPart : file.path.filename = file.filename
  times : file.createdAt = env.now ∧ file.updatedAt = env.now
  uncommitted : file.uncommitted = []
  /-- The content was prepared during this upload, before it was asked which file is current. -/
  content : ∃ asked prepared, Prepares env request asked prepared ∧ state.calls <:+ asked ∧
    .findCurrentFile request.owner :: asked <:+ after.calls ∧
      file.metadata = ⟨prepared.mimeType, prepared.bytes.size, prepared.width, prepared.height⟩ ∧
      after.content? file.path.text = some ⟨prepared.bytes, prepared.mimeType⟩
  records : after.files.records = state.files.staying request ++ [file]
  cleared : ∀ old, state.files.givingWay? request = some old → old.path ≠ file.path →
    after.content? old.path.text = none
  untouched : ∀ path, path ≠ file.path.text →
    (∀ old, state.files.givingWay? request = some old → path ≠ old.path.text) →
      after.content? path = state.content? path
  events : events = [.of file.id request.correlation env.now
    (.uploaded file.id file.owner file.path.text file.metadata.mimeType file.metadata.size)]

section Accepting

variable {env : Env} {request : UploadRequest} {made : Plan} {id : Uuid} {state after : State}
  {old : File}

/-! ## What is stored -/

theorem consult_ok {α : Type} {act : Act BackendFailure α} {call : Call}
    {answer : Except BackendFailure α}
    (asks : act.runOn state = (match env.outside.backendFault (call :: state.calls) with
      | some cause => .error cause
      | none => answer, state.noted call)) {value : α}
    (ran : (onServices act).runOn state = (.ok value, after)) :
    answer = .ok value ∧ after = state.noted call := by
  have ran := of_mapFailure_ok ran
  rw [asks] at ran
  cases fault : env.outside.backendFault (call :: state.calls) with
  | some cause =>
    rw [fault] at ran
    cases ran
  | none =>
    rw [fault, Prod.mk.injEq] at ran
    exact ⟨ran.1, ran.2.symm⟩

theorem recognise_ok {mimeType : String}
    (ran : (recognise env request.bytes).runOn state = (.ok mimeType, after)) :
    env.outside.mimeType (.detectType request.bytes :: state.calls) request.bytes =
        some mimeType ∧ after = state.noted (.detectType request.bytes) := by
  obtain ⟨detected, asked, asking, rest⟩ := of_bind_ok ran
  obtain ⟨answer, rfl⟩ := consult_ok (runOn_detectType request.bytes state) asking
  cases detected with
  | none => cases rest
  | some known =>
    obtain ⟨same, rfl⟩ := Prod.mk.inj rest
    obtain rfl : known = mimeType := Except.ok.inj same
    exact ⟨Except.ok.inj answer, rfl⟩

theorem prepare_ok {mimeType : String} {earlier : List Call} {prepared : Prepared}
    (type : env.outside.mimeType (.detectType request.bytes :: earlier) request.bytes =
      some mimeType)
    (calls : state.calls = .detectType request.bytes :: earlier)
    (ran : (prepare env request mimeType).runOn state = (.ok prepared, after)) :
    Prepares env request after.calls prepared := by
  unfold prepare at ran
  split_ifs at ran with image
  · cases given : request.transform with
    | some change =>
      rw [given] at ran
      obtain ⟨made, asked, asking, rest⟩ := of_bind_ok ran
      obtain ⟨answer, rfl⟩ := consult_ok (runOn_transformPicture request.bytes change state) asking
      obtain ⟨same, rfl⟩ := Prod.mk.inj rest
      obtain rfl : _ = prepared := Except.ok.inj same
      rw [State.noted_calls, calls]
      rw [calls] at answer
      exact .changed type image given answer
    | none =>
      rw [given] at ran
      obtain ⟨sides, asked, asking, rest⟩ := of_bind_ok ran
      obtain ⟨answer, rfl⟩ := consult_ok (runOn_measurePicture request.bytes state) asking
      obtain ⟨same, rfl⟩ := Prod.mk.inj rest
      obtain rfl : _ = prepared := Except.ok.inj same
      rw [State.noted_calls, calls]
      rw [calls] at answer
      exact .measured type image given (Except.ok.inj answer)
  · obtain ⟨same, rfl⟩ := Prod.mk.inj ran
    obtain rfl : _ = prepared := Except.ok.inj same
    rw [calls]
    exact .plain type (Bool.eq_false_iff.2 image)

theorem plan_prepares (ran : (plan env request).runOn state = (.ok made, after)) :
    ∃ asked, Prepares env request asked made.prepared ∧ state.calls <:+ asked ∧
      .findCurrentFile request.owner :: asked <:+ after.calls := by
  obtain ⟨_, first, enforced, rest⟩ := of_bind_ok ran
  obtain ⟨mimeType, second, recognised, rest⟩ := of_bind_ok rest
  obtain ⟨prepared, third, readied, rest⟩ := of_bind_ok rest
  obtain ⟨existing, fourth, chosen, rest⟩ := of_bind_ok rest
  obtain ⟨path, fifth, placed, rest⟩ := of_bind_ok rest
  obtain ⟨_, sixth, free, last⟩ := of_bind_ok rest
  rw [runOn_pure, Prod.mk.injEq, Except.ok.injEq] at last
  obtain ⟨rfl, rfl⟩ := last
  obtain ⟨type, rfl⟩ := recognise_ok recognised
  refine ⟨third.calls, prepare_ok type rfl readied, ?_, ?_⟩
  · calc state.calls
      _ <:+ first.calls := (keeps_enforce env request).called enforced
      _ <:+ .detectType request.bytes :: first.calls := List.suffix_cons _ _
      _ <:+ third.calls := (keeps_prepare env request mimeType).called readied
  · have asked : fourth.calls = .findCurrentFile request.owner :: third.calls := by
      obtain ⟨current, found, asking, answered⟩ := of_bind_ok chosen
      have asking := of_mapFailure_ok asking
      rw [currentFile, runOn_question, Prod.mk.injEq] at asking
      rw [runOn_pure, Prod.mk.injEq] at answered
      rw [← answered.2, ← asking.2, State.noted_calls]
    rw [runOn_ofExcept, Prod.mk.injEq] at placed
    rw [← asked, placed.2]
    exact (keeps_refuseOccupied env path existing).called free

/-! ## What is written -/

/-- A plan has been carried out and its file given: the file follows on the records that stay,
and contents differ only where it lies and where the file lay that has given way. -/
structure Entered (made : Plan) (file : File) (before : State) (taken : File × List Event)
    (after : State) : Prop where
  taken : taken = (file.detached, file.uncommitted)
  records : after.files.records = before.files.records.filter
    (fun other => made.existing.map (·.id) ≠ some other.id) ++ [file.detached]
  here : after.content? file.path.text = some made.content
  cleared : ∀ old, made.existing = some old → old.path ≠ file.path →
    after.content? old.path.text = none
  untouched : ∀ path, path ≠ file.path.text →
    (∀ old, made.existing = some old → path ≠ old.path.text) →
      after.content? path = before.content? path

theorem Replaced.entered {file : File} (existing : made.existing = some old)
    {taken : File × List Event} (replaced : Replaced made file old state (.ok taken, after)) :
    Entered made file state taken after where
  taken := Except.ok.inj replaced.result
  records := by
    rw [replaced.files, existing]
    simp only [Option.map_some, ne_eq, Option.some.injEq, eq_comm]
  here := by rw [replaced.content, Function.update_self]
  cleared := by
    intro other same elsewhere
    obtain rfl : old = other := Option.some.inj (existing.symm.trans same)
    have apart : old.path.text ≠ file.path.text := fun here => elsewhere (Path.text_injective here)
    rw [replaced.content, Function.update_of_ne apart, Function.update_self]
  untouched := by
    intro path apart others
    rw [replaced.content, Function.update_of_ne apart, Function.update_of_ne (others old existing)]

section CarryOut

variable (files : env.outside.Reliable "files") (storage : env.outside.Reliable "storage")
  (ids : (state.files.records.map (·.id)).Nodup)

include files storage ids

theorem Exchange.replaced {file : File} (place : file.path = made.path)
    (member : old ∈ state.files.records) {stored : Call} {taken : File × List Event}
    (ends : Exchange env stored made file old state (.ok taken, after))
    (inMemory : after.InMemory) : Replaced made file old state (.ok taken, after) := by
  cases ends with
  | renewed here calls inserted content =>
    refine ⟨rfl, ?_, inMemory, ?_⟩
    · rw [Catalogue.erase_eq_filter old.id ids] at inserted
      exact (Catalogue.insert_ok inserted).2
    · have text : old.path.text = file.path.text := congrArg Path.text (here.symm.trans place.symm)
      rw [content, text, Function.update_idem, place]
  | @joined _ more elsewhere calls inserted record content =>
    have newId := (Catalogue.insert_ok inserted).1
    refine ⟨rfl, ?_, inMemory, ?_⟩
    · rcases record with ⟨fault, -⟩ | ⟨-, less⟩
      · exact absurd (files.record _ _ rfl) fault
      · rw [less, (Catalogue.insert_ok inserted).2]
        exact congrArg Catalogue.mk
          (Catalogue.eraseFirst_append old.id _ ids (Ne.symm (newId old member)))
    · have apart : made.path.text ≠ old.path.text := fun same =>
        elsewhere (Path.text_injective same)
      rcases content with ⟨fault, -⟩ | ⟨-, gone⟩
      · rw [calls] at fault
        exact absurd (storage.backend _ _ rfl) fault
      · rw [gone, Function.update_comm apart, place]

/-- Whichever of the two is written first, the file has taken the place of the old one. -/
theorem carryOut_replaces (strategy : ReplaceStrategy) (inMemory : state.InMemory)
    (existing : made.existing = some old) (member : old ∈ state.files.records)
    {taken : File × List Event}
    (ran : (carryOut env strategy request id made).runOn state = (.ok taken, after)) :
    Replaced made (made.file env request id) old state (.ok taken, after) := by
  have moved := (@keeps_carryOut env (fun _ => True) strategy request id trivial made).allows ran
  have kept : after.InMemory := moved.1.1 inMemory
  cases strategy with
  | uploadThenSwap =>
    have ends := @exchange_carryOut env request made id state old inMemory existing
    rw [ran] at ends
    exact ends.replaced files storage ids rfl member kept
  | deleteThenUpload =>
    obtain ⟨blobs, inMemory⟩ := inMemory
    obtain ⟨removed, first, less, without⟩ := exists_removed files storage inMemory ids old
    rw [carryOut, existing, makeRoom, runOn_bind_ok first] at ran
    obtain ⟨rfl, -, inserted, content⟩ := added_ok ⟨_, without⟩ ran
    rw [less] at inserted
    refine ⟨rfl, (Catalogue.insert_ok inserted).2, kept, ?_⟩
    rw [content, State.content?_of_memory without, State.content?_of_memory inMemory,
      Blobs.Memory.get?_erase]
    rfl

theorem carryOut_enters (strategy : ReplaceStrategy) (inMemory : state.InMemory)
    (member : ∀ old, made.existing = some old → old ∈ state.files.records)
    {taken : File × List Event}
    (ran : (carryOut env strategy request id made).runOn state = (.ok taken, after)) :
    Entered made (made.file env request id) state taken after := by
  cases existing : made.existing with
  | some old =>
    exact (carryOut_replaces files storage ids strategy inMemory existing (member old existing)
      ran).entered existing
  | none =>
    -- Where nothing gives way, the two orders are the same.
    have added : (do
        storeContent env request made.path made.prepared
        onRecords (createRecord env (made.file env request id))
        return ((made.file env request id).detached, (made.file env request id).uncommitted) :
          Act FileFailure (File × List Event)).runOn state = (.ok taken, after) := by
      rw [← ran, carryOut, existing]
      cases strategy <;> rfl
    obtain ⟨same, -, inserted, content⟩ := added_ok inMemory added
    refine ⟨same, ?_, ?_, ?_, ?_⟩
    · rw [(Catalogue.insert_ok inserted).2, existing]
      simp
    · rw [content]
      exact Function.update_self ..
    · rintro old bad
      rw [existing] at bad
      cases bad
    · intro path apart _
      rw [content]
      exact Function.update_of_ne apart _ _

end CarryOut

/-- Where neither store refuses a call, an upload that ends well has taken in the file that it
gives, in the place of the one that gives way, and has changed nothing else. -/
theorem upload_accepted (files : env.outside.Reliable "files")
    (storage : env.outside.Reliable "storage") (inMemory : state.InMemory)
    (ids : (state.files.records.map (·.id)).Nodup) (strategy : ReplaceStrategy) {file : File}
    {events : List Event}
    (ran : (upload env strategy request id).runOn state = (.ok (file, events), after)) :
    Accepted env request id state file events after := by
  rw [upload_eq] at ran
  obtain ⟨made, middle, ran, rest⟩ := of_bind_ok ran
  have planned := planned_of_run ran
  obtain ⟨asked, prepares, since, earlier⟩ := plan_prepares ran
  have entered := carryOut_enters files storage (planned.files ▸ ids) strategy
    (planned.inMemory inMemory) planned.member rest
  have moved := (@keeps_carryOut env (fun _ => True) strategy request id trivial made).allows rest
  obtain ⟨added, calls, -⟩ := moved.1.2
  obtain ⟨rfl, rfl⟩ := Prod.mk.inj entered.taken
  obtain ⟨-, entityType, entityId, filename⟩ := placeFor_ok planned.place
  constructor
  · rfl
  · rfl
  · rfl
  · exact build_of_placeFor planned.place
  · exact entityType
  · exact entityId
  · exact filename
  · exact ⟨rfl, rfl⟩
  · rfl
  · refine ⟨asked, made.prepared, prepares, since, ?_, rfl, entered.here⟩
    rw [calls]
    exact earlier.trans (List.suffix_append _ _)
  · rw [entered.records, planned.existing, planned.files, Catalogue.staying]
  · rw [← planned.existing]
    exact entered.cleared
  · rw [← planned.existing, ← planned.content]
    exact entered.untouched
  · rfl

/-- Services that take every content for a picture and write it anew as a small one. -/
def paintingEnv : Env where
  now := ⟨1, 0⟩
  book := ⟨"", ""⟩
  outside := { Outside.plain with
    mimeType := fun _ _ => some "image/png"
    transform := fun _ _ _ => .ok ⟨"small".toUTF8, 2, 1, "image/webp"⟩ }

/-- A picture follows on the note of a user and is stored as it has been changed. -/
theorem upload_accepted_picture :
    let request := { noteRequest "picture.webp" with transform := some { format := .webp } }
    ∃ file events after, (upload paintingEnv .uploadThenSwap request (.ofNat 2)).runOn noteStored =
        (.ok (file, events), after) ∧
      Accepted paintingEnv request (.ofNat 2) noteStored file events after ∧
      file.metadata = ⟨"image/webp", 5, some 2, some 1⟩ ∧
      after.content? file.path.text = some ⟨"small".toUTF8, "image/webp"⟩ ∧
      after.content? tenantsNote.path.text = none ∧ after.files.records = [file] := by
  intro request
  have quiet (service : String) : paintingEnv.outside.Reliable service := fun _ _ _ => ⟨rfl, rfl⟩
  have well : ((upload paintingEnv .uploadThenSwap request (.ofNat 2)).runOn noteStored).1.isOk =
      true := by decide +kernel
  cases ended : (upload paintingEnv .uploadThenSwap request (.ofNat 2)).runOn noteStored with
  | mk result after =>
    rw [ended] at well
    cases result with
    | error failure => cases well
    | ok taken =>
      have accepted := upload_accepted (quiet "files") (quiet "storage") ⟨_, rfl⟩
        (by simp [noteStored]) .uploadThenSwap ended
      refine ⟨taken.1, taken.2, after, rfl, accepted, ?_⟩
      have giving : noteStored.files.givingWay? request = some tenantsNote := by decide +kernel
      have staying : noteStored.files.staying request = [] := by decide +kernel
      obtain ⟨asked, prepared, prepares, -, -, metadata, content⟩ := accepted.content
      have elsewhere : tenantsNote.path ≠ taken.1.path := by
        intro same
        have filename := accepted.lastPart.trans accepted.filename
        rw [← same] at filename
        exact absurd filename (by decide)
      have gone := accepted.cleared tenantsNote giving elsewhere
      have records : after.files.records = [taken.1] := by
        rw [accepted.records, staying, List.nil_append]
      cases prepares with
      | plain type image =>
        cases type
        exact absurd image (by decide +kernel)
      | measured type image given answer => cases given
      | changed type image given answer =>
        obtain rfl := Except.ok.inj answer
        exact ⟨metadata, content, gone, records⟩

end Accepting

end Depot.Files
