import Depot.Proofs.Files.Exchange
import Depot.Proofs.Files.Retry

/-!
# Swapping files under faults

What an upload that puts the new file in place first costs, whichever calls fail.  Where it
fails, the old file is as it was, unless the new one has the same path: then its content
has been written over, and its record may have gone.  Where it ends well, every record has
its content, unless the record of the old file could not be removed: its content is
removed all the same.
-/

set_option autoImplicit false

namespace Depot

namespace Files

open Act

/-! ## Plans -/

/-- The file that gives way to an upload. -/
def Catalogue.givingWay? (files : Catalogue) (request : UploadRequest) : Option File :=
  (files.current? request.owner).filter fun _ => request.replaceExisting

/-- A plan has been made: the stores are as they were, what gives way is settled, and so is the
place of the new file. -/
structure Planned (env : Env) (request : UploadRequest) (made : Plan) (state middle : State) :
    Prop where
  looked : Frame.looking.Allows state middle
  files : middle.files = state.files
  content : middle.content? = state.content?
  inMemory : state.InMemory → middle.InMemory
  existing : made.existing = state.files.givingWay? request
  place : placeFor env request = .ok made.path
  member : ∀ old, made.existing = some old → old ∈ middle.files.records

theorem planned_of_run {env : Env} {request : UploadRequest} {made : Plan} {state middle : State}
    (ran : (plan env request).runOn state = (.ok made, middle)) :
    Planned env request made state middle := by
  have looked := (keeps_plan env request).allows ran
  obtain ⟨files, blobs, -⟩ := Frame.sparingFiles_of_looking looked
  obtain ⟨existing, place, -⟩ := plan_ok env ran
  refine ⟨looked, files, State.content?_of_blobs blobs, ?_, existing, place, fun old giving => ?_⟩
  · rintro ⟨memory, inMemory⟩
    exact ⟨memory, blobs.trans inMemory⟩
  · rw [existing] at giving
    rw [files]
    exact (Catalogue.mem_of_current? (Option.filter_eq_some_iff.1 giving).1).1

/-! ## Failures -/

/-- The last call has stored a content at a path. -/
def StoresContent (env : Env) (path : String) (content : Blobs.Content) (calls : List Call) :
    Prop :=
  ∃ target earlier, calls = .uploadBlob content.bytes target :: earlier ∧ target.path = path ∧
    target.mimeType = content.mimeType ∧ env.outside.backendFault calls = none

/-- The last call has removed the record of an identifier. -/
def RemovesRecord (env : Env) (id : Uuid) (calls : List Call) : Prop :=
  ∃ earlier, calls = .deleteFile id :: earlier ∧ env.outside.recordFault calls = none

section Failing

variable {env : Env} {request : UploadRequest} {id : Uuid} {state middle after : State} {old : File}

/-- A file is stored as before: its record, and the content at its path. -/
structure Intact (file : File) (before after : State) : Prop where
  record : after.files.findById? file.id = some file
  content : after.content? file.path.text = before.content? file.path.text

/-- An old file has been written over: the new one has the same path, its content has been
stored, and that is another content or the old record has been removed. -/
def Overwritten (env : Env) (request : UploadRequest) (old : File) (before after : State) : Prop :=
  placeFor env request = .ok old.path ∧ ∃ content,
    Passed before.calls after.calls (StoresContent env old.path.text content) ∧
      (before.content? old.path.text ≠ some content ∨
        Passed before.calls after.calls (RemovesRecord env old.id))

theorem findById?_of_mem {files : Catalogue} {file : File}
    (ids : (files.records.map (·.id)).Nodup) (member : file ∈ files.records) :
    files.findById? file.id = some file := by
  cases found : files.findById? file.id with
  | none =>
    have absent := List.find?_eq_none.1 found file member
    simp at absent
  | some other =>
    have there : other ∈ files.records := List.mem_of_find?_eq_some found
    have same : other.id = file.id := by simpa using List.find?_some found
    rw [List.inj_on_of_nodup_map ids there member same]

theorem findById?_erase {files : Catalogue} (ids : (files.records.map (·.id)).Nodup) (id : Uuid) :
    (files.erase id).findById? id = none := by
  rw [Catalogue.erase_eq_filter id ids, Catalogue.findById?, List.find?_eq_none]
  intro other member
  simpa using (List.mem_filter.1 member).2

theorem not_passed_looking {point : List Call → Prop}
    (looked : Frame.looking.Allows state middle)
    (changes : ∀ call earlier, point (call :: earlier) → call.looks = false) :
    state.calls <:+ middle.calls ∧ ¬ Passed state.calls middle.calls point := by
  obtain ⟨added, rfl, looks⟩ := looked
  refine ⟨List.suffix_append _ _, not_passed_append fun call member earlier here => ?_⟩
  have changed := changes call earlier here
  rw [looks call member] at changed
  cases changed

theorem StoresContent.changes {path : String} {content : Blobs.Content} (call : Call)
    (earlier : List Call) (stores : StoresContent env path content (call :: earlier)) :
    call.looks = false := by
  obtain ⟨target, rest, same, -⟩ := stores
  rw [(List.cons.inj same).1]
  rfl

theorem RemovesRecord.changes (call : Call) (earlier : List Call)
    (removes : RemovesRecord env id (call :: earlier)) : call.looks = false := by
  obtain ⟨rest, same, -⟩ := removes
  rw [(List.cons.inj same).1]
  rfl

theorem storesContent_storing {made : Plan} {calls : List Call}
    (well : env.outside.backendFault (made.storing request :: calls) = none)
    (content : Blobs.Content) :
    StoresContent env made.path.text content (made.storing request :: calls) ↔
      content = made.content := by
  constructor
  · rintro ⟨target, earlier, same, -, mimeType, -⟩
    rw [List.cons.injEq, Plan.storing, Call.uploadBlob.injEq] at same
    obtain ⟨⟨bytes, rfl⟩, -⟩ := same
    cases content
    simp only [Plan.content, Blobs.Content.mk.injEq]
    exact ⟨bytes.symm, mimeType.symm⟩
  · rintro rfl
    exact ⟨_, _, rfl, rfl, rfl, well⟩

theorem not_storesContent {call : Call} {calls : List Call} {path : String}
    {content : Blobs.Content} (other : ∀ bytes target, call ≠ .uploadBlob bytes target) :
    ¬ StoresContent env path content (call :: calls) := by
  rintro ⟨target, earlier, same, -⟩
  exact other _ _ (List.cons.inj same).1

theorem not_removesRecord {call : Call} {calls : List Call}
    (other : call ≠ .deleteFile id) : ¬ RemovesRecord env id (call :: calls) := by
  rintro ⟨earlier, same, -⟩
  exact other (List.cons.inj same).1

/-- A plan has been made, and nothing has been stored or removed for it. -/
structure Settled (env : Env) (request : UploadRequest) (made : Plan) (old : File)
    (state middle : State) : Prop extends Planned env request made state middle where
  since : state.calls <:+ middle.calls
  unstored : ∀ content, ¬ Passed state.calls middle.calls (StoresContent env old.path.text content)
  unremoved : ¬ Passed state.calls middle.calls (RemovesRecord env old.id)

theorem Planned.settled {made : Plan} (planned : Planned env request made state middle)
    (old : File) : Settled env request made old state middle where
  toPlanned := planned
  since := (not_passed_looking planned.looked (@RemovesRecord.changes env old.id)).1
  unstored _ := (not_passed_looking planned.looked StoresContent.changes).2
  unremoved := (not_passed_looking planned.looked RemovesRecord.changes).2

section Settled

variable {made : Plan} {file : File} (settled : Settled env request made old state middle)

include settled

theorem Settled.intact_of_same (found : state.files.findById? old.id = some old)
    (files : after.files = middle.files)
    (content : after.content? old.path.text = middle.content? old.path.text) :
    Intact old state after :=
  ⟨by rw [files, settled.files, found], by rw [content, settled.content]⟩

theorem Settled.stored_iff (here : made.path = old.path)
    (well : env.outside.backendFault (made.storing request :: middle.calls) = none)
    (content : Blobs.Content) :
    Passed state.calls (made.storing request :: middle.calls)
      (StoresContent env old.path.text content) ↔ content = made.content := by
  rw [passed_cons settled.since, ← here, storesContent_storing well]
  exact or_iff_left (here ▸ settled.unstored content)

theorem Exchange.intact_iff (ids : (state.files.records.map (·.id)).Nodup)
    (found : state.files.findById? old.id = some old) {failure : FileFailure}
    (ends : Exchange env (made.storing request) made file old middle (.error failure, after)) :
    Intact old state after ↔ ¬ Overwritten env request old state after := by
  have since : state.calls <:+ made.storing request :: middle.calls :=
    settled.since.trans (List.suffix_cons _ _)
  have spared : ¬ RemovesRecord env old.id (made.storing request :: middle.calls) :=
    not_removesRecord (by simp [Plan.storing])
  cases ends with
  | refused calls fault files content =>
    refine iff_of_true (settled.intact_of_same found files (by rw [content])) ?_
    rintro ⟨-, stored, passed, -⟩
    rw [calls, passed_cons settled.since] at passed
    rcases passed with ⟨_, _, -, -, -, well⟩ | early
    · exact fault (calls ▸ well)
    · exact settled.unstored stored early
  | clung here well calls fault files content =>
    -- The record is kept and the new content is in place: it may be the same as the old one.
    have kept : ¬ Passed state.calls after.calls (RemovesRecord env old.id) := by
      rw [calls, passed_cons since, passed_cons settled.since]
      rintro (⟨_, -, removed⟩ | storing | early)
      · exact fault (calls ▸ removed)
      · exact spared storing
      · exact settled.unremoved early
    have stored (content : Blobs.Content) : Passed state.calls after.calls
        (StoresContent env old.path.text content) ↔ content = made.content := by
      rw [calls, passed_cons since, settled.stored_iff here well]
      exact or_iff_right (not_storesContent (by simp))
    have now : after.content? old.path.text = some made.content := by
      rw [content, here, Function.update_self]
    have record : after.files.findById? old.id = some old := by rw [files, settled.files, found]
    constructor
    · rintro intact ⟨-, other, passed, different | removed⟩
      · rw [(stored other).1 passed, ← now, intact.content] at different
        exact different rfl
      · exact kept removed
    · intro survives
      refine ⟨record, ?_⟩
      by_contra changed
      refine survives ⟨here ▸ settled.place, made.content, (stored _).2 rfl, .inl fun same => ?_⟩
      exact changed (now.trans same.symm)
  | dropped here well calls removed files content =>
    refine iff_of_false (fun intact => ?_) (not_not_intro ?_)
    · have gone : after.files.findById? old.id = none := by
        rw [files, settled.files]
        exact findById?_erase ids old.id
      have there := intact.record
      rw [gone] at there
      cases there
    · refine ⟨here ▸ settled.place, made.content, ?_, .inr ?_⟩
      · rw [calls, passed_cons (since.trans (List.suffix_cons _ _)), passed_cons since]
        exact .inr (.inr ((settled.stored_iff here well _).2 rfl))
      · rw [calls, passed_cons (since.trans (List.suffix_cons _ _)), passed_cons since]
        exact .inr (.inl ⟨_, rfl, removed⟩)
  | unrecorded elsewhere files content =>
    have apart : old.path.text ≠ made.path.text := fun same =>
      elsewhere (Path.text_injective same).symm
    refine iff_of_true (settled.intact_of_same found files ?_) ?_
    · rw [content, Function.update_of_ne apart]
    · rintro ⟨place, -⟩
      exact elsewhere (Except.ok.inj (settled.place.symm.trans place))

end Settled

/-- A failed upload that was to put the new file in place first keeps the old file as it was,
whichever calls have failed, unless it has been written over. -/
theorem upload_keeps_iff (inMemory : state.InMemory) (ids : (state.files.records.map (·.id)).Nodup)
    (current : state.files.current? request.owner = some old)
    (replaces : request.replaceExisting = true) {failure : FileFailure}
    (failed : (upload env .uploadThenSwap request id).runOn state = (.error failure, after)) :
    Intact old state after ↔ ¬ Overwritten env request old state after := by
  have found := findById?_of_mem ids (Catalogue.mem_of_current? current).1
  rw [upload_eq] at failed
  rcases of_bind_error failed with refused | ⟨made, middle, ran, rest⟩
  · have looked := (keeps_plan env request).allows refused
    obtain ⟨files, blobs, -⟩ := Frame.sparingFiles_of_looking looked
    refine iff_of_true ⟨by rw [files, found], by rw [State.content?_of_blobs blobs]⟩ ?_
    rintro ⟨-, content, passed, -⟩
    exact (not_passed_looking looked StoresContent.changes).2 passed
  · have planned := planned_of_run ran
    have existing : made.existing = some old := by
      rw [planned.existing, Catalogue.givingWay?, current]
      simp [replaces]
    have ends := @exchange_carryOut env request made id middle old (planned.inMemory inMemory)
      existing
    rw [rest] at ends
    exact ends.intact_iff (planned.settled old) ids found

theorem tenantsPath_sound : checkPath "test" 1 "user" "tenant" "note.txt" = none := by decide

def tenantsNote : File where
  id := .ofNat 1
  owner := ⟨"user", "tenant", "note"⟩
  filename := "note.txt"
  path := ⟨"test", 1970, 1, "user", "tenant", "note.txt", tenantsPath_sound⟩
  metadata := ⟨"text/plain", 0, none, none⟩
  createdAt := ⟨0, 0⟩
  updatedAt := ⟨0, 0⟩

def noteEnvFull : Env :=
  { noteEnv with
    outside := { Outside.plain with
      recordFault := fun calls =>
        match calls with
        | .createFile _ :: _ => some (.internal "no room")
        | _ => none } }

theorem not_intact_note :
    ¬ Intact tenantsNote noteStored ((upload noteEnvFull .uploadThenSwap (noteRequest "note.txt")
      (.ofNat 2)).runOn noteStored).2 := by
  intro intact
  have gone : ((upload noteEnvFull .uploadThenSwap (noteRequest "note.txt") (.ofNat 2)).runOn
      noteStored).2.files.findById? tenantsNote.id = none := by decide +kernel
  have there := intact.record
  rw [gone] at there
  cases there

/-- Where no record can be made, storing a note anew under the same name loses the old one. -/
theorem renewal_loses_note :
    noteStored.files.current? (noteRequest "note.txt").owner = some tenantsNote ∧
      ∃ after, (upload noteEnvFull .uploadThenSwap (noteRequest "note.txt") (.ofNat 2)).runOn
          noteStored = (.error (.records (.internal "no room")), after) ∧
        after.files.records = [] ∧ ¬ Intact tenantsNote noteStored after :=
  ⟨by decide +kernel, _, Prod.ext (by decide +kernel) rfl, by decide +kernel, not_intact_note⟩

/-- Where no record can be made, the note is kept under another name and lost under the same. -/
theorem upload_keeps_iff_note :
    (∃ after, (upload noteEnvFull .uploadThenSwap (noteRequest "new.txt") (.ofNat 2)).runOn
        noteStored = (.error (.records (.internal "no room")), after) ∧
      Intact tenantsNote noteStored after) ∧
    ∃ after, (upload noteEnvFull .uploadThenSwap (noteRequest "note.txt") (.ofNat 2)).runOn
        noteStored = (.error (.records (.internal "no room")), after) ∧
      Overwritten noteEnvFull (noteRequest "note.txt") tenantsNote noteStored after := by
  have current : noteStored.files.current? ⟨"user", "tenant", "note"⟩ = some tenantsNote := by
    decide +kernel
  have kept (filename : String)
      (failed : ((upload noteEnvFull .uploadThenSwap (noteRequest filename) (.ofNat 2)).runOn
        noteStored).1 = .error (.records (.internal "no room"))) :=
    @upload_keeps_iff noteEnvFull (noteRequest filename) (.ofNat 2) noteStored _ tenantsNote
      ⟨_, rfl⟩ (by simp [noteStored]) current rfl _ (Prod.ext failed rfl)
  constructor
  · refine ⟨_, Prod.ext (by decide +kernel) rfl, (kept _ (by decide +kernel)).2 ?_⟩
    rintro ⟨place, -⟩
    have filename := (placeFor_ok place).2.2.2
    exact absurd filename (by decide)
  · refine ⟨_, Prod.ext (by decide +kernel) rfl, ?_⟩
    by_contra survives
    exact not_intact_note ((kept "note.txt" (by decide +kernel)).2 survives)

end Failing

/-! ## Successes -/

/-- The last two calls were to remove the record of a file, which has failed, and its content,
which has not. -/
def Stranded (env : Env) (file : File) (calls : List Call) : Prop :=
  ∃ earlier, calls = .deleteBlob file.path.text :: .deleteFile file.id :: earlier ∧
    env.outside.recordFault (.deleteFile file.id :: earlier) ≠ none ∧
    env.outside.backendFault calls = none

section Succeeding

variable {env : Env} {request : UploadRequest} {made : Plan} {id : Uuid} {state after : State}
  {file old : File}

theorem not_stranded {calls earlier : List Call} {call : Call}
    (last : calls = call :: earlier) (other : call ≠ .deleteBlob file.path.text) :
    ¬ Stranded env file calls := by
  rintro ⟨rest, same, -⟩
  exact other (List.cons.inj (last.symm.trans same)).1

/-- Every record has a content at its path. -/
def Filled (state : State) : Prop :=
  ∀ record ∈ state.files.records, state.content? record.path.text ≠ none

/-- A file is recorded, and its content is in place. -/
def InPlace (state : State) (file : File) (content : Blobs.Content) : Prop :=
  file ∈ state.files.records ∧ state.content? file.path.text = some content

/-- A record has no content. -/
def Lacks (state : State) (record : File) : Prop :=
  record ∈ state.files.records ∧ state.content? record.path.text = none

theorem Filled.not_lacks (filled : Filled state) (record : File) : ¬ Lacks state record :=
  fun lacks => filled record lacks.1 lacks.2

theorem Filled.insert (filled : Filled state) {kept later : Catalogue} {content : Blobs.Content}
    (part : ∀ other ∈ kept.records, other ∈ state.files.records)
    (inserted : kept.insert file = .ok later) :
    ∀ record ∈ later.records,
      Function.update state.content? file.path.text (some content) record.path.text ≠ none := by
  rw [(Catalogue.insert_ok inserted).2]
  intro record member
  rcases List.mem_append.1 member with present | last
  · have elsewhere : record.path.text ≠ file.path.text := fun same =>
      Catalogue.insert_newPath inserted record present (Path.text_injective same)
    rw [Function.update_of_ne elsewhere]
    exact filled record (part record present)
  · rw [List.mem_singleton.1 last]
    simp [File.detached]

theorem mem_erase {files : Catalogue} {other : File} (ids : (files.records.map (·.id)).Nodup) :
    other ∈ (files.erase id).records ↔ other ∈ files.records ∧ other.id ≠ id := by
  rw [Catalogue.erase_eq_filter id ids, List.mem_filter, decide_eq_true_eq]

theorem mem_insert {files later : Catalogue} {other : File}
    (inserted : files.insert file = .ok later) :
    other ∈ later.records ↔ other ∈ files.records ∨ other = file.detached := by
  rw [(Catalogue.insert_ok inserted).2, List.mem_append, List.mem_singleton]

theorem nodup_insert {files later : Catalogue} (ids : (files.records.map (·.id)).Nodup)
    (inserted : files.insert file = .ok later) : (later.records.map (·.id)).Nodup := by
  obtain ⟨newId, same⟩ := Catalogue.insert_ok inserted
  rw [same]
  exact nodup_map_concat ids newId

theorem Filled.missing_iff (filled : Filled state)
    (paths : (state.files.records.map (·.path)).Nodup) (member : old ∈ state.files.records)
    {later : Catalogue} {content : Blobs.Content} (inserted : state.files.insert file = .ok later)
    (elsewhere : file.path ≠ old.path) {other : File} (present : other ∈ later.records) :
    Function.update (Function.update state.content? file.path.text (some content)) old.path.text
      none other.path.text = none ↔ other = old := by
  by_cases same : other.path.text = old.path.text
  · rw [same, Function.update_self]
    refine iff_of_true rfl ?_
    rcases (mem_insert inserted).1 present with earlier | last
    · exact List.inj_on_of_nodup_map paths earlier member (Path.text_injective same)
    · rw [last] at same
      exact absurd (Path.text_injective same) elsewhere
  · rw [Function.update_of_ne same]
    refine iff_of_false (filled.insert (fun _ kept => kept) inserted other present) ?_
    rintro rfl
    exact same rfl

theorem Exchange.lacks_iff (ids : (state.files.records.map (·.id)).Nodup)
    (paths : (state.files.records.map (·.path)).Nodup) (member : old ∈ state.files.records)
    (filled : Filled state) (place : file.path = made.path) {stored : Call}
    {taken : File × List Event}
    (ends : Exchange env stored made file old state (.ok taken, after)) (record : File) :
    Lacks after record ↔ old = record ∧ Stranded env record after.calls := by
  cases ends with
  | renewed here calls files content =>
    have everywhere : Filled after := by
      rw [Filled, content, ← place]
      exact filled.insert (fun _ kept => ((mem_erase ids).1 kept).1) files
    refine iff_of_false (everywhere.not_lacks record) ?_
    rintro ⟨-, stranded⟩
    exact not_stranded calls (by simp) stranded
  | @joined _ files elsewhere calls inserted removal content =>
    rw [← place] at elsewhere content
    have distinct := nodup_insert ids inserted
    have among : ∀ other ∈ after.files.records, other ∈ files.records := by
      intro other present
      rcases removal with ⟨-, same⟩ | ⟨-, less⟩
      · rwa [same] at present
      · rw [less, mem_erase distinct] at present
        exact present.1
    rcases content with ⟨fault, kept⟩ | ⟨well, gone⟩
    · have everywhere : Filled after := by
        intro other present
        rw [kept]
        exact filled.insert (fun _ stays => stays) inserted other (among other present)
      refine iff_of_false (everywhere.not_lacks record) ?_
      rintro ⟨-, _, -, -, removed⟩
      exact fault removed
    constructor
    · rintro ⟨present, lacking⟩
      rw [gone] at lacking
      obtain rfl := (filled.missing_iff paths member inserted elsewhere (among _ present)).1 lacking
      refine ⟨rfl, _, calls, ?_, well⟩
      rcases removal with ⟨fault, -⟩ | ⟨-, less⟩
      · exact fault
      · rw [less, mem_erase distinct] at present
        exact absurd rfl present.2
    · rintro ⟨rfl, earlier, same, fault, -⟩
      have kept : old ∈ files.records := (mem_insert inserted).2 (.inl member)
      refine ⟨?_, ?_⟩
      · rw [calls, List.cons.injEq, List.cons.injEq] at same
        rcases removal with ⟨-, stays⟩ | ⟨removed, -⟩
        · rwa [stays]
        · rw [← same.2.2] at fault
          exact absurd removed fault
      · rw [gone]
        exact (filled.missing_iff paths member inserted elsewhere kept).2 rfl

theorem Exchange.inPlace (ids : (state.files.records.map (·.id)).Nodup)
    (member : old ∈ state.files.records) (place : file.path = made.path) {stored : Call}
    {taken : File × List Event}
    (ends : Exchange env stored made file old state (.ok taken, after)) :
    taken = (file.detached, file.uncommitted) ∧ InPlace after file.detached made.content := by
  cases ends with
  | renewed here calls files content =>
    refine ⟨rfl, (mem_insert files).2 (.inr rfl), ?_⟩
    rw [content, ← place]
    exact Function.update_self ..
  | @joined _ files elsewhere calls inserted removal content =>
    rw [← place] at elsewhere content
    have newId := (Catalogue.insert_ok inserted).1
    have present : file.detached ∈ files.records := (mem_insert inserted).2 (.inr rfl)
    refine ⟨rfl, ?_, ?_⟩
    · rcases removal with ⟨-, stays⟩ | ⟨-, less⟩
      · rwa [stays]
      · rw [less, mem_erase (nodup_insert ids inserted)]
        exact ⟨present, Ne.symm (newId old member)⟩
    · have apart : file.path.text ≠ old.path.text := fun same => elsewhere (Path.text_injective same)
      rcases content with ⟨-, kept⟩ | ⟨-, gone⟩
      · rw [kept]
        exact Function.update_self ..
      · rw [gone]
        exact (Function.update_of_ne apart _ _).trans (Function.update_self ..)

/-- An upload that was to put the new file in place first and ends well has recorded it with its
content, whichever calls have failed; and no record lacks its content but the one that gives
way, if it could not be removed and its content could. -/
theorem upload_strands_iff (inMemory : state.InMemory)
    (ids : (state.files.records.map (·.id)).Nodup)
    (paths : (state.files.records.map (·.path)).Nodup) (filled : Filled state)
    {events : List Event}
    (ran : (upload env .uploadThenSwap request id).runOn state = (.ok (file, events), after)) :
    (∃ content, InPlace after file content ∧ content.bytes.size = file.metadata.size ∧
      content.mimeType = file.metadata.mimeType) ∧
    ∀ record, Lacks after record ↔
      state.files.givingWay? request = some record ∧ Stranded env record after.calls := by
  rw [upload_eq] at ran
  obtain ⟨made, middle, ran, rest⟩ := of_bind_ok ran
  have planned := planned_of_run ran
  have kept := planned.inMemory inMemory
  have full : Filled middle := by
    rw [Filled, planned.files, planned.content]
    exact filled
  rw [← planned.files] at ids paths
  rw [← planned.existing]
  cases existing : made.existing with
  | none =>
    rw [carryOut, existing] at rest
    obtain ⟨same, calls, inserted, content⟩ := added_ok kept rest
    have place : (made.file env request id).path = made.path := rfl
    rw [← place] at content
    obtain ⟨rfl, -⟩ := Prod.mk.inj same
    refine ⟨⟨made.content, ⟨(mem_insert inserted).2 (.inr rfl), ?_⟩, rfl, rfl⟩, fun record => ?_⟩
    · rw [content]
      exact Function.update_self ..
    · have everywhere : Filled after := by
        rw [Filled, content]
        exact full.insert (fun _ stays => stays) inserted
      refine iff_of_false (everywhere.not_lacks record) ?_
      rintro ⟨bad, -⟩
      cases bad
  | some old =>
    have member := planned.member old existing
    have ends := @exchange_carryOut env request made id middle old kept existing
    rw [rest] at ends
    obtain ⟨same, inPlace⟩ := ends.inPlace ids member rfl
    obtain ⟨rfl, -⟩ := Prod.mk.inj same
    refine ⟨⟨made.content, inPlace, rfl, rfl⟩, fun record => ?_⟩
    rw [ends.lacks_iff ids paths member full rfl record, Option.some.injEq]

theorem filled_note : Filled noteStored := by
  intro record member
  obtain rfl : record = tenantsNote := by simpa [noteStored, tenantsNote] using member
  decide +kernel

theorem note_lacks :
    ((upload noteEnvClinging .uploadThenSwap (noteRequest "new.txt") (.ofNat 2)).runOn
      noteStored).1.isOk = true ∧
    Lacks ((upload noteEnvClinging .uploadThenSwap (noteRequest "new.txt") (.ofNat 2)).runOn
      noteStored).2 tenantsNote := by
  refine ⟨by decide +kernel, by decide +kernel, ?_⟩
  rw [← Option.isNone_iff_eq_none]
  decide +kernel

/-- Where no record can be removed, a note that gives way under another name stays without its
content, although the upload ends well. -/
theorem replacement_strands_note :
    Filled noteStored ∧ ∃ taken after,
      (upload noteEnvClinging .uploadThenSwap (noteRequest "new.txt") (.ofNat 2)).runOn noteStored =
        (.ok taken, after) ∧ ∃ record, Lacks after record := by
  obtain ⟨well, lacks⟩ := note_lacks
  refine ⟨filled_note, ?_⟩
  cases ended : (upload noteEnvClinging .uploadThenSwap (noteRequest "new.txt") (.ofNat 2)).runOn
      noteStored with
  | mk result after =>
    rw [ended] at well lacks
    cases result with
    | error failure => cases well
    | ok taken => exact ⟨taken, after, rfl, tenantsNote, lacks⟩

/-- The new note is in place, and the old one is the one record that lacks its content. -/
theorem upload_strands_iff_note :
    ∃ file events after, (upload noteEnvClinging .uploadThenSwap (noteRequest "new.txt")
        (.ofNat 2)).runOn noteStored = (.ok (file, events), after) ∧
      (∃ content, InPlace after file content) ∧ Stranded noteEnvClinging tenantsNote after.calls ∧
      ∀ record, Lacks after record → record = tenantsNote := by
  obtain ⟨well, lacks⟩ := note_lacks
  cases ended : (upload noteEnvClinging .uploadThenSwap (noteRequest "new.txt") (.ofNat 2)).runOn
      noteStored with
  | mk result after =>
    rw [ended] at well lacks
    cases result with
    | error failure => cases well
    | ok taken =>
      obtain ⟨⟨content, inPlace, -⟩, strands⟩ := upload_strands_iff ⟨_, rfl⟩
        (by simp [noteStored]) (by simp [noteStored]) filled_note ended
      obtain ⟨giving, stranded⟩ := (strands tenantsNote).1 lacks
      refine ⟨taken.1, taken.2, after, rfl, ⟨content, inPlace⟩, stranded, fun record lost => ?_⟩
      have also := ((strands record).1 lost).1
      rw [giving] at also
      exact (Option.some.inj also).symm

end Succeeding

end Files

end Depot
