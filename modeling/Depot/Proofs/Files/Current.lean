import Depot.Proofs.Files.Newest

/-!
# The current file of an owner

A file that is taken in is added behind all others, so that as long as the clock does not
run backwards it is the newest one of its owner and the one that is found, whatever else
the owner has.  Where every upload replaces, an owner has no second file: the one that is
there is found, and goes before the upload ends well.
-/

set_option autoImplicit false

namespace Depot

open Files (File)

namespace Files

open Act

namespace Catalogue

variable {files : Catalogue} {records : List File} {file old : File} {owner : Owner}

/-! ## Which file is found -/

theorem current?_concat
    (latest : ∀ other ∈ records, other.createdAt.le file.createdAt = true) :
    current? ⟨records ++ [file]⟩ file.owner = some file := by
  rw [current?_eq_some_iff]
  refine ⟨records.length, List.getElem?_concat_length, rfl, ?_⟩
  intro other place there _ different
  -- every other record stands before the last one and is no younger
  have reached := (List.getElem?_eq_some_iff.1 there).1
  rw [List.length_append, List.length_singleton] at reached
  have before : place < records.length := by omega
  rw [List.getElem?_append_left before] at there
  exact sooner_of_newerOrSame (latest other (List.mem_of_getElem? there)) before

theorem owner_of_current? (current : files.current? owner = some file) : file.owner = owner := by
  obtain ⟨place, -, own, -⟩ := current?_eq_some_iff.1 current
  exact own

theorem current?_ne_none (present : file ∈ files.records) (own : file.owner = owner) :
    files.current? owner ≠ none := by
  intro nothing
  exact current?_eq_none_iff.1 nothing file present own

theorem eraseFirst_concat {id : Uuid} (present : ∃ other ∈ records, other.id = id) :
    eraseFirst id (records ++ [file]) = eraseFirst id records ++ [file] := by
  induction records with
  | nil => simp at present
  | cons first rest ih =>
    rw [List.cons_append, eraseFirst, eraseFirst]
    by_cases here : first.id = id
    · rw [if_pos here, if_pos here]
    · rw [if_neg here, if_neg here, List.cons_append, ih]
      obtain ⟨other, member, same⟩ := present
      rcases List.mem_cons.1 member with rfl | later
      · exact absurd same here
      · exact ⟨other, later, same⟩

end Catalogue

/-! ## What an upload does to the records -/

section Joining

variable {env : Env} {request : UploadRequest} {made : Plan} {id : Uuid} {state after : State}

/-- What is kept of the records when a file joins them: the identifier of the file is new, and a
file that gives way has gone unless the records have refused its removal. -/
structure Kept (env : Env) (before kept : List File) (id : Uuid) (existing : Option File) :
    Prop where
  part : kept.Sublist before
  newId : ∀ other ∈ kept, other.id ≠ id
  gone : env.outside.Reliable "files" → (before.map (·.id)).Nodup →
    ∀ old, existing = some old → ∀ other ∈ kept, other.id ≠ old.id

theorem createRecord_cases {file : File} {result : Except FileFailure Unit}
    (ran : (onRecords (createRecord env file)).runOn state = (result, after)) :
    (∃ failure, result = .error failure) ∧ after.files = state.files ∨
      result = .ok () ∧ (∀ other ∈ state.files.records, other.id ≠ file.id) ∧
        after.files = ⟨state.files.records ++ [file.detached]⟩ := by
  cases result with
  | error failure =>
    obtain ⟨cause, ran, -⟩ := of_mapFailure_error ran
    obtain ⟨-, -, ⟨_, -, kept⟩ | ⟨bad, -⟩⟩ := createRecord_ends ran
    · exact .inl ⟨⟨_, rfl⟩, kept⟩
    · cases bad
  | ok _ =>
    obtain ⟨-, -, inserted⟩ := createRecord_ok (of_mapFailure_ok ran)
    exact .inr ⟨rfl, Catalogue.insert_ok inserted⟩

theorem deleteRecord_cases {result : Except Failure (Option File)}
    (ran : (deleteRecord env id).runOn state = (result, after)) :
    (∃ failure, result = .error failure) ∧ ¬ env.outside.Reliable "files" ∧
        after.files = state.files ∨
      (∃ found, result = .ok found) ∧ after.files = state.files.erase id := by
  obtain ⟨calls, -, ⟨failure, failed, fault, kept⟩ | ⟨well, -, less⟩⟩ := deleteRecord_ends ran
  · refine .inl ⟨⟨failure, failed⟩, fun reliable => fault ?_, kept⟩
    rw [calls, reliable.record (.deleteFile id) _ rfl]
  · exact .inr ⟨well, less⟩

theorem Kept.all {before : List File} (newId : ∀ other ∈ before, other.id ≠ id) :
    Kept env before before id none :=
  ⟨.refl _, newId, fun _ _ _ absent => by cases absent⟩

theorem Kept.erase {before kept : List File} {old : File}
    (part : kept.Sublist (Catalogue.eraseFirst old.id before))
    (newId : ∀ other ∈ kept, other.id ≠ id) : Kept env before kept id (some old) := by
  refine ⟨part.trans (Catalogue.eraseFirst_sublist _ _), newId, fun _ ids other same => ?_⟩
  obtain rfl : old = other := Option.some.inj same
  intro left member
  have among := part.subset member
  rw [Catalogue.eraseFirst_eq_filter _ _ ids] at among
  simpa using (List.mem_filter.1 among).2

/-- How the records look after the half that writes: some are gone, or the new file is behind
those that are kept. -/
def Entry (env : Env) (file : File) (existing : Option File) (state : State)
    (ended : Except FileFailure (File × List Event) × State) : Prop :=
  (∃ failure, ended.1 = .error failure) ∧
      ended.2.files.records.Sublist state.files.records ∨
    ended.1 = .ok (file.detached, file.uncommitted) ∧
      ∃ kept, Kept env state.files.records kept file.id existing ∧
        ended.2.files.records = kept ++ [file.detached]

theorem files_storeContent {result : Except FileFailure Unit}
    (ran : (storeContent env request made.path made.prepared).runOn state = (result, after)) :
    after.files = state.files := by
  rw [storeContent, runOn_mapFailure, uploadBlob, Prod.mk.injEq] at ran
  rw [← ran.2, files_changeBlobs]

theorem entry_added :
    Entry env (made.file env request id) none state
      ((do
        storeContent env request made.path made.prepared
        onRecords (createRecord env (made.file env request id))
        return ((made.file env request id).detached, (made.file env request id).uncommitted) :
          Act FileFailure (File × List Event)).runOn state) := by
  refine bind_cases (fun failure stored ran => ?_) fun _ stored ran => ?_
  · exact .inl ⟨⟨_, rfl⟩, by rw [files_storeContent ran]⟩
  have same := files_storeContent ran
  refine bind_cases (fun failure last ran => ?_) fun _ last ran => ?_
  · rcases createRecord_cases ran with ⟨-, kept⟩ | ⟨bad, -⟩
    · exact .inl ⟨⟨_, rfl⟩, by rw [kept, same]⟩
    · cases bad
  · rcases createRecord_cases ran with ⟨⟨_, bad⟩, -⟩ | ⟨-, newId, more⟩
    · cases bad
    · rw [same] at newId more
      exact .inr ⟨rfl, _, .all newId, by rw [runOn_pure, more]⟩

theorem entry_swapped {old : File} (member : old ∈ state.files.records) :
    Entry env (made.file env request id) (some old) state
      ((do
        storeContent env request made.path made.prepared
        swap env (made.file env request id) old
        return ((made.file env request id).detached, (made.file env request id).uncommitted) :
          Act FileFailure (File × List Event)).runOn state) := by
  refine bind_cases (fun failure stored ran => ?_) fun _ stored ran => ?_
  · exact .inl ⟨⟨_, rfl⟩, by rw [files_storeContent ran]⟩
  have same := files_storeContent ran
  rw [swap]
  -- At the same path the old record goes before the new one comes; elsewhere it goes last, and
  -- the upload ends well even if it stays.
  by_cases here : (made.file env request id).path = old.path
  · rw [if_pos here, bind_assoc]
    refine bind_cases (fun failure erased ran => ?_) fun found erased ran => ?_
    · obtain ⟨cause, ran, -⟩ := of_mapFailure_error ran
      rcases deleteRecord_cases ran with ⟨-, -, kept⟩ | ⟨⟨_, bad⟩, -⟩
      · exact .inl ⟨⟨_, rfl⟩, by rw [kept, same]⟩
      · cases bad
    rcases deleteRecord_cases (of_mapFailure_ok ran) with ⟨⟨_, bad⟩, -⟩ | ⟨-, less⟩
    · cases bad
    rw [same] at less
    refine bind_cases (fun failure last ran => ?_) fun _ last ran => ?_
    · rcases createRecord_cases ran with ⟨-, kept⟩ | ⟨bad, -⟩
      · exact .inl ⟨⟨_, rfl⟩, by rw [kept, less]; exact Catalogue.eraseFirst_sublist _ _⟩
      · cases bad
    · rcases createRecord_cases ran with ⟨⟨_, bad⟩, -⟩ | ⟨-, newId, more⟩
      · cases bad
      · rw [less] at newId more
        exact .inr ⟨rfl, _, .erase (.refl _) newId, by rw [runOn_pure, more]; rfl⟩
  · rw [if_neg here, bind_assoc]
    refine bind_cases (fun failure created ran => ?_) fun _ created ran => ?_
    · rcases createRecord_cases ran with ⟨-, kept⟩ | ⟨bad, -⟩
      · exact .inl ⟨⟨_, rfl⟩, by rw [kept, same]⟩
      · cases bad
    rcases createRecord_cases ran with ⟨⟨_, bad⟩, -⟩ | ⟨-, newId, more⟩
    · cases bad
    rw [same] at newId more
    cases erasing : (deleteRecord env old.id).runOn created with
    | mk result erased =>
      have erasure : ((deleteRecord env old.id).outcome : Act FileFailure _).runOn created =
          (.ok result, erased) := by
        rw [runOn_outcome, erasing]
      have last : ((deleteBlob env old.path.text).runOn erased).2.files = erased.files :=
        files_changeBlobs _ _ erased
      rw [bind_assoc, runOn_bind_ok erasure, bind_assoc, runOn_bind, runOn_outcome]
      refine .inr ⟨rfl, ?_⟩
      rcases deleteRecord_cases erasing with ⟨-, unreliable, kept⟩ | ⟨-, less⟩
      · refine ⟨state.files.records, ⟨.refl _, newId, fun reliable => absurd reliable unreliable⟩, ?_⟩
        simp only [pure_bind, runOn_pure, last, kept, more]
      · have present : ∃ other ∈ state.files.records, other.id = old.id := ⟨old, member, rfl⟩
        refine ⟨Catalogue.eraseFirst old.id state.files.records, .erase (.refl _) ?_, ?_⟩
        · intro other left
          exact newId other ((Catalogue.eraseFirst_sublist _ _).subset left)
        · simp only [pure_bind, runOn_pure, last, less, more, Catalogue.erase]
          exact Catalogue.eraseFirst_concat present

theorem removeFile_files {old : File} {result : Except FileFailure Unit}
    (ran : (removeFile env old).runOn state = (result, after)) :
    (∃ failure, result = .error failure) ∧ after.files = state.files ∨
      result = .ok () ∧ after.files = state.files.erase old.id := by
  have contents : ((onServices (deleteBlob env old.path.text)).runOn state).2.files =
      state.files := by
    rw [onServices, runOn_mapFailure, deleteBlob, files_changeBlobs]
  cases cleared : (onServices (deleteBlob env old.path.text)).runOn state with
  | mk removal middle =>
    rw [cleared] at contents
    cases removal with
    | error failure =>
      rw [removeFile, runOn_bind_error cleared, Prod.mk.injEq] at ran
      exact .inl ⟨⟨failure, ran.1.symm⟩, ran.2 ▸ contents⟩
    | ok _ =>
      rw [removeFile, runOn_bind_ok cleared] at ran
      cases erasing : (deleteRecord env old.id).runOn middle with
      | mk erasure last =>
        rw [runOn_bind, onRecords, runOn_mapFailure, erasing] at ran
        rcases deleteRecord_cases erasing with ⟨⟨failure, rfl⟩, -, kept⟩ | ⟨⟨found, rfl⟩, less⟩
        · obtain ⟨failed, rfl⟩ := Prod.mk.inj ran
          exact .inl ⟨⟨_, failed.symm⟩, kept.trans contents⟩
        · obtain ⟨well, rfl⟩ := Prod.mk.inj ran
          exact .inr ⟨well.symm, less.trans (by rw [contents])⟩

theorem Entry.after_removal {file old : File} {removed : State}
    {ended : Except FileFailure (File × List Event) × State}
    (entry : Entry env file none removed ended) (less : removed.files = state.files.erase old.id) :
    Entry env file (some old) state ended := by
  rw [Entry, less] at entry
  rcases entry with ⟨failed, thinned⟩ | ⟨well, kept, keeps, records⟩
  · exact .inl ⟨failed, thinned.trans (Catalogue.eraseFirst_sublist _ _)⟩
  · exact .inr ⟨well, kept, .erase keeps.part keeps.newId, records⟩

/-- Whatever fails on the way, the records are thinned or the file is behind what is kept. -/
theorem entry_carryOut (strategy : ReplaceStrategy)
    (member : ∀ old, made.existing = some old → old ∈ state.files.records) :
    Entry env (made.file env request id) made.existing state
      ((carryOut env strategy request id made).runOn state) := by
  cases existing : made.existing with
  | none =>
    cases strategy <;>
    · rw [carryOut, existing]
      exact entry_added
  | some old =>
    cases strategy with
    | uploadThenSwap =>
      rw [carryOut, existing]
      exact entry_swapped (member old existing)
    | deleteThenUpload =>
      rw [carryOut, existing]
      refine bind_cases (fun failure removed ran => ?_) fun _ removed ran => ?_
      · rcases removeFile_files ran with ⟨-, same⟩ | ⟨bad, -⟩
        · exact .inl ⟨⟨_, rfl⟩, by rw [same]⟩
        · cases bad
      · rcases removeFile_files ran with ⟨⟨_, bad⟩, -⟩ | ⟨-, less⟩
        · cases bad
        · exact entry_added.after_removal less

/-- An upload fails, and records are at most gone, or its file is behind those that are kept. -/
theorem upload_cases (env : Env) (strategy : ReplaceStrategy) (request : UploadRequest) (id : Uuid)
    (state : State) {result : Except FileFailure (File × List Event)}
    (ran : (upload env strategy request id).runOn state = (result, after)) :
    (∃ failure, result = .error failure) ∧ after.files.records.Sublist state.files.records ∨
      ∃ file events kept, result = .ok (file, events) ∧ file.owner = request.owner ∧
        file.createdAt = env.now ∧ after.files.records = kept ++ [file] ∧
        Kept env state.files.records kept file.id
          ((state.files.current? request.owner).filter fun _ => request.replaceExisting) := by
  rw [upload_eq] at ran
  cases planned : (plan env request).runOn state with
  | mk decision middle =>
    have same : middle.files = state.files := files_after_looking (keeps_plan env request) planned
    cases decision with
    | error failure =>
      rw [runOn_bind_error planned, Prod.mk.injEq] at ran
      exact .inl ⟨⟨failure, ran.1.symm⟩, by rw [← ran.2, same]⟩
    | ok made =>
      rw [runOn_bind_ok planned] at ran
      obtain ⟨chosen, -⟩ := plan_ok env planned
      have member : ∀ old, made.existing = some old → old ∈ middle.files.records := by
        intro old existing
        rw [chosen] at existing
        rw [same]
        exact (Catalogue.mem_of_current? (Option.filter_eq_some_iff.1 existing).1).1
      have entry := @entry_carryOut env request made id middle strategy member
      rw [ran, Entry, same, chosen] at entry
      rcases entry with ⟨failed, thinned⟩ | ⟨well, kept, keeps, records⟩
      · exact .inl ⟨failed, thinned⟩
      · exact .inr ⟨_, _, kept, well, rfl, rfl, records, keeps⟩

end Joining

end Files

/-! ## Runs -/

/-- What holds of the file records still holds of them. -/
def Frame.holding (Holds : List File → Prop) : Frame :=
  .preserving fun state => Holds state.files.records

section Runs

variable {Holds : List File → Prop}

theorem Frame.holding_admits
    (thinner : ∀ kept before, kept.Sublist before → Holds before → Holds kept) :
    (holding Holds).AdmitsService where
  files := {
    note := fun _ _ _ _ holds => holds
    insert := fun _ _ _ never _ => never.elim
    thin := fun _ _ part holds => thinner _ _ part holds
    change := fun _ _ _ holds => holds }
  fileEvents := ⟨fun _ _ _ holds => holds, fun _ _ _ holds => holds⟩
  accounts := ⟨fun _ _ _ _ holds => holds, fun _ _ _ holds => holds⟩
  accountEvents := ⟨fun _ _ _ holds => holds, fun _ _ _ holds => holds⟩

/-- What fewer records keep and every upload of a run keeps, the run keeps. -/
theorem run_holds (thinner : ∀ kept before, kept.Sublist before → Holds before → Holds kept)
    {steps : List Step} (uploads : ∀ step ∈ steps, ∀ strategy request id,
      step.operation.Uploads strategy request id →
        (Files.upload step.env strategy request id).Keeps (.holding Holds))
    {state : State} (holds : Holds state.files.records) : Holds (run steps state).files.records := by
  induction steps generalizing state with
  | nil => exact holds
  | cons step rest ih =>
    have next := Operation.allows_next (Frame.holding_admits thinner)
      (uploads step (.head _)) state holds
    exact ih (fun other member => uploads other (.tail _ member)) next

end Runs

namespace Files

open Act

variable {env : Env} {strategy : ReplaceStrategy} {request : UploadRequest} {id : Uuid}

/-- An upload makes no record that is younger than its clock. -/
theorem upload_keeps_early {latest : Instant} (early : env.now.le latest = true) :
    (upload env strategy request id).Keeps
      (.holding fun records => ∀ file ∈ records, file.createdAt.le latest = true) := by
  intro state before
  cases ran : (upload env strategy request id).runOn state with
  | mk result after =>
    rcases upload_cases env strategy request id state ran with
      ⟨-, part⟩ | ⟨file, _, kept, -, -, createdAt, records, keeps⟩
    · intro other member
      exact before other (part.subset member)
    · intro other member
      rw [records] at member
      rcases List.mem_append.1 member with present | last
      · exact before other (keeps.part.subset present)
      · rw [List.mem_singleton.1 last, createdAt]
        exact early

/-- No two records share an identifier or an owner. -/
structure Single (records : List File) : Prop where
  ids : (records.map (·.id)).Nodup
  owners : (records.map (·.owner)).Nodup

theorem Single.thinner {kept before : List File} (part : kept.Sublist before)
    (single : Single before) : Single kept :=
  ⟨single.ids.sublist (part.map _), single.owners.sublist (part.map _)⟩

/-- The file that an owner has goes before another one of the owner joins. -/
theorem upload_keeps_single (files : env.outside.Reliable "files")
    (replaces : request.replaceExisting = true) :
    (upload env strategy request id).Keeps (.holding Single) := by
  intro state single
  cases ran : (upload env strategy request id).runOn state with
  | mk result after =>
    rcases upload_cases env strategy request id state ran with
      ⟨-, part⟩ | ⟨file, _, kept, -, owner, -, records, keeps⟩
    · exact single.thinner part
    have others : ∀ other ∈ kept, other.owner ≠ file.owner := by
      -- Another record of the owner would be the one that was found, and that one has gone.
      intro other member same
      have present := keeps.part.subset member
      obtain ⟨old, current⟩ := Option.ne_none_iff_exists'.1
        (Catalogue.current?_ne_none present (same.trans owner))
      have own : old.owner = other.owner := by
        rw [Catalogue.owner_of_current? current, same, owner]
      obtain rfl : old = other :=
        List.inj_on_of_nodup_map single.owners (Catalogue.mem_of_current? current).1 present own
      exact keeps.gone files single.ids old (by simp [current, replaces]) old member rfl
    have left := single.thinner keeps.part
    change Single after.files.records
    rw [records]
    exact ⟨nodup_map_concat left.ids keeps.newId, nodup_map_concat left.owners others⟩

end Files

/-- Every upload that an operation may make replaces the current file. -/
def Operation.Replaces (operation : Operation) : Prop :=
  ∀ strategy request id, operation.Uploads strategy request id → request.replaceExisting = true

def anotherNote : Files.UploadRequest where
  owner := ⟨"user", Uuid.nil.text, "note"⟩
  filename := "third.txt"
  bytes := "third".toUTF8
  environment := "test"
  replaceExisting := false

/-- In a run from no file records, a file taken in when no earlier clock was ahead is the one
found for its owner; and where every upload replaces, no owner has two records. -/
theorem run_current {start : State} (nothing : start.files.records = []) (steps : List Step) :
    (∀ env : Env, (∀ step ∈ steps, step.env.now.le env.now = true) →
      ∀ strategy request id file events after,
        (Files.upload env strategy request id).runOn (run steps start) =
          (.ok (file, events), after) →
        ∀ reader : Env, reader.outside.Reliable "files" →
          ((Files.currentFile reader request.owner).runOn after).1 = .ok (some file)) ∧
    ((∀ step ∈ steps, step.operation.Replaces ∧ step.env.outside.Reliable "files") →
      ((run steps start).files.records.map (·.owner)).Nodup) := by
  constructor
  · intro env forward strategy request id file events after ran reader reliable
    have early : ∀ other ∈ (run steps start).files.records,
        other.createdAt.le env.now = true := by
      refine @run_holds (fun records => ∀ other ∈ records, other.createdAt.le env.now = true)
        ?_ steps ?_ start (by simp [nothing])
      · intro kept before part early other member
        exact early other (part.subset member)
      · intro step member _ _ _ _
        exact Files.upload_keeps_early (forward step member)
    rcases Files.upload_cases env strategy request id (run steps start) ran with
      ⟨⟨_, bad⟩, -⟩ | ⟨_, _, kept, well, owner, createdAt, records, keeps⟩
    · cases bad
    obtain ⟨rfl, rfl⟩ := Prod.mk.inj (Except.ok.inj well)
    have latest : ∀ other ∈ kept, other.createdAt.le file.createdAt = true := by
      intro other member
      rw [createdAt]
      exact early other (keeps.part.subset member)
    have found : after.files.current? request.owner = some file := by
      rw [← owner, show after.files = ⟨kept ++ [file]⟩ from congrArg Files.Catalogue.mk records]
      exact Files.Catalogue.current?_concat latest
    rw [Files.currentFile, Files.runOn_question, reliable.record _ _ rfl, found]
  · intro calm
    refine (@run_holds Files.Single ?_ steps ?_ start ?_).owners
    · intro kept before part single
      exact single.thinner part
    · intro step member strategy request id uploads
      obtain ⟨replaces, files⟩ := calm step member
      exact Files.upload_keeps_single files (replaces strategy request id uploads)
    · rw [nothing]
      exact ⟨.nil, .nil⟩

/-- A note is replaced, and in the same second another one is taken in beside it. -/
theorem run_current_note :
    let state := run (replacement .plain .nil) (.initial {})
    let env : Env := ⟨⟨1, 0⟩, ⟨"", ""⟩, .plain⟩
    let ended := (Files.upload env .uploadThenSwap anotherNote (.ofNat 2)).runOn state
    (state.files.records.map (·.owner)).Nodup ∧ ended.2.files.records.length = 2 ∧
      ∃ file events, ended.1 = .ok (file, events) ∧
        ((Files.currentFile env anotherNote.owner).runOn ended.2).1 = .ok (some file) := by
  intro state env ended
  have nothing : (State.initial {}).files.records = [] := rfl
  obtain ⟨latest, single⟩ := run_current nothing (replacement .plain .nil)
  refine ⟨single fun step member => ?_, by decide +kernel, ?_⟩
  · obtain ⟨_, -, rfl⟩ := List.mem_map.1 member
    refine ⟨?_, Outside.plain_reliable "files"⟩
    rintro _ _ _ ⟨-, rfl, -⟩
    rfl
  · have taken : ended.1.isOk = true := by decide +kernel
    cases well : ended.1 with
    | error failure =>
      rw [well] at taken
      cases taken
    | ok stored =>
      refine ⟨stored.1, stored.2, rfl, ?_⟩
      exact latest env (by decide +kernel) _ _ _ _ _ _ (Prod.ext well rfl) env
        (Outside.plain_reliable "files")

end Depot
