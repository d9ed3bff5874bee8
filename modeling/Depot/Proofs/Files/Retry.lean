import Depot.Proofs.Events.Delivery

/-!
# Removals can be asked for again

However many attempts at a removal have failed, and wherever each of them stopped, no
record has gone, and the next attempt is about the same files.  So once nothing fails,
the removal ends as a single attempt without faults would have ended from the start.
-/

set_option autoImplicit false

namespace Depot.Files

open Act

/-- A use case that removes files. -/
inductive Clearing
  | named (id : Uuid)
  | owned (owner : Owner) (correlation : Uuid)
  | ofUser (policy : CascadePolicy) (user : Uuid)

namespace Clearing

def attempt (env : Env) : Clearing → Act FileFailure (File ⊕ Nat)
  | named id => .inl <$> remove env id
  | owned owner correlation => .inl <$> removeOfOwner env owner correlation
  | ofUser policy user => .inr <$> removeOfUser env policy user

/-- The files that are to go. -/
def targets (files : Catalogue) : Clearing → List File
  | named id => (files.findById? id).toList
  | owned owner _ => (files.current? owner).toList
  | ofUser _ user => files.ofEntity userEntity user.text

/-- The records that are left once the files have gone. -/
def remaining (files : Catalogue) : Clearing → Catalogue
  | named id => (files.findById? id).elim files (files.erase ·.id)
  | owned owner _ => (files.current? owner).elim files (files.erase ·.id)
  | ofUser _ user => files.eraseOfEntity userEntity user.text

/-- What an attempt without faults gives. -/
def outcome (files : Catalogue) : Clearing → Except FileFailure (File ⊕ Nat)
  | named id => (files.findById? id).elim (.error (.notFound id.text)) (.ok <| .inl ·)
  | owned owner _ =>
    (files.current? owner).elim (.error (.notFound owner.text)) (.ok <| .inl ·.detached)
  | ofUser _ user => .ok (.inr (files.countOfEntity userEntity user.text))

/-- Attempts have been made in any surroundings, and each of them has failed. -/
inductive Stalled (clearing : Clearing) (state : State) : State → Prop
  | nothing : Stalled clearing state state
  | again {middle after : State} (stalled : Stalled clearing state middle) (env : Env)
    (failure : FileFailure)
    (failed : (clearing.attempt env).runOn middle = (.error failure, after)) :
    Stalled clearing state after

/-- The contents that may have gone while nothing else has. -/
def empties (clearing : Clearing) (files : Catalogue) : Frame :=
  .emptying ((clearing.targets files).map (·.path.text))

/-! ## Attempts that fail -/

variable {env : Env} {clearing : Clearing} {state after : State} {failure : FileFailure}

theorem emptying_of_remove {id : Uuid}
    (failed : (remove env id).runOn state = (.error failure, after)) :
    ((named id).empties state.files).Allows state after := by
  rcases of_bind_error failed with early | ⟨file, middle, located, late⟩
  · exact (empties_looking (keeps_locate env _)).allows early
  · have target : file.path.text ∈ ((named id).targets state.files).map (·.path.text) := by
      rw [targets, show state.files.findById? id = some file from locate_found located]
      exact .head _
    have removal : Act.FailsWithin ((named id).empties state.files)
        (removeFile env file >>= fun _ => pure file) := .bind_pure (removeFile_fails target)
    exact Frame.chain _ ((empties_looking (keeps_locate env _)).allows located)
      (removal middle failure after late)

theorem emptying_of_removeOfOwner {owner : Owner} {correlation : Uuid}
    (failed : (removeOfOwner env owner correlation).runOn state = (.error failure, after)) :
    ((owned owner correlation).empties state.files).Allows state after := by
  rcases of_bind_error failed with early | ⟨file, middle, located, late⟩
  · exact (empties_looking (keeps_locate env _)).allows early
  · have target : file.path.text ∈
        ((owned owner correlation).targets state.files).map (·.path.text) := by
      rw [targets, show state.files.current? owner = some file from locate_found located]
      exact .head _
    have removal : Act.FailsWithin ((owned owner correlation).empties state.files) (do
        let shown ← markPending (file.markDeleted correlation env.now)
        onRecords (dispatch env shown.id)
        removeFile env shown
        return shown) := by
      refine .bind_given (kept_markPending Frame.emptying_admits _) fun shown _ _ marked => ?_
      obtain ⟨_, _, _, shows⟩ := of_bind_ok marked
      obtain rfl : (file.markDeleted correlation env.now).detached = shown :=
        Except.ok.inj (congrArg Prod.fst shows)
      exact .bind (.mapFailure _ (kept_dispatch Frame.emptying_admits _)) fun _ =>
        .bind_pure (removeFile_fails target)
    exact Frame.chain _ ((empties_looking (keeps_locate env _)).allows located)
      (removal middle failure after late)

theorem emptying_of_removeOfUser {policy : CascadePolicy} {user : Uuid}
    (failed : (removeOfUser env policy user).runOn state = (.error failure, after)) :
    ((ofUser policy user).empties state.files).Allows state after := by
  have looks : (onRecords (filesOfEntity env userEntity user.text)).Keeps .looking :=
    .mapFailure _ (keeps_filesOfEntity env _ _)
  rcases of_bind_error failed with early | ⟨files, middle, listed, late⟩
  · exact (empties_looking looks).allows early
  · obtain rfl : files = state.files.ofEntity userEntity user.text :=
      question_ok env (of_mapFailure_ok listed)
    have removal : Act.FailsWithin ((ofUser policy user).empties state.files) (do
        removeContents env policy (state.files.ofEntity userEntity user.text)
        onRecords (deleteRecordsOfEntity env userEntity user.text)) :=
      .bind (empties_removeContents policy fun file member => List.mem_map.2 ⟨file, member, rfl⟩)
        fun _ => .mapFailure (deleteRecordsOfEntity_fails _ _)
    exact Frame.chain _ ((empties_looking looks).allows listed) (removal middle failure after late)

/-- An attempt that fails has at most removed contents of the files that are to go. -/
theorem emptying_of_attempt
    (failed : (clearing.attempt env).runOn state = (.error failure, after)) :
    (clearing.empties state.files).Allows state after := by
  cases clearing with
  | named id => exact emptying_of_remove (of_map_error failed)
  | owned owner correlation => exact emptying_of_removeOfOwner (of_map_error failed)
  | ofUser policy user => exact emptying_of_removeOfUser (of_map_error failed)

/-- A failed attempt leaves the records, so the files that are to go stay the same. -/
theorem Stalled.emptying (stalled : clearing.Stalled state after) (inMemory : state.InMemory) :
    (clearing.empties state.files).Allows state after := by
  induction stalled with
  | nothing => exact Frame.stay _ state
  | again stalled env failure failed ih =>
    -- The files that are to go are read off the records, which the attempts so far have left.
    have same := (ih inMemory).2.1
    exact Frame.chain _ ih (same ▸ emptying_of_attempt failed)

/-! ## Attempts without faults -/

theorem attempt_ok (untroubled : env.Untroubled) (inMemory : state.InMemory)
    (takes : ∀ entry ∈ state.fileEvents.handlers, ∀ failure, entry.2 ≠ .refuser failure)
    (clearing : Clearing) :
    ∃ after, (clearing.attempt env).runOn state = (clearing.outcome state.files, after) ∧
      Emptied state (clearing.targets state.files) (clearing.remaining state.files) after := by
  obtain ⟨files, storage, heard⟩ := untroubled
  have nothing (call : Call) : Emptied state [] state.files (state.noted call) :=
    ⟨rfl, inMemory, (lacking_nil _).symm⟩
  cases clearing with
  | named id =>
    simp only [attempt, outcome, targets, remaining, runOn_map]
    cases found : state.files.findById? id with
    | none =>
      have located : (locate env (.byId id)).runOn state =
          (.error (.notFound id.text), state.noted (.findFileById id)) :=
        locate_missing files found
      rw [remove, runOn_bind_error located]
      exact ⟨_, rfl, nothing _⟩
    | some file =>
      obtain ⟨after, removed, emptied⟩ := remove_ok files storage inMemory found
      rw [removed]
      exact ⟨after, rfl, emptied⟩
  | owned owner correlation =>
    simp only [attempt, outcome, targets, remaining, runOn_map]
    cases found : state.files.current? owner with
    | none =>
      have located : (locate env (.byOwner owner)).runOn state =
          (.error (.notFound owner.text), state.noted (.findCurrentFile owner)) :=
        locate_missing files found
      rw [removeOfOwner, runOn_bind_error located]
      exact ⟨_, rfl, nothing _⟩
    | some file =>
      obtain ⟨after, removed, emptied, -⟩ :=
        removeOfOwner_ok heard "" files storage inMemory takes found correlation
      rw [removed]
      exact ⟨after, rfl, emptied⟩
  | ofUser policy user =>
    obtain ⟨after, removed, emptied⟩ := removeOfUser_ok files storage inMemory policy user
    rw [attempt, runOn_map, removed]
    exact ⟨after, rfl, emptied⟩

end Clearing

def noteWatched : State :=
  { noteStored with fileEvents := ⟨[(.fileDeleted, .recorder "deletions")], []⟩ }

def noteEnvClinging : Env :=
  { noteEnv with
    outside := { Outside.plain with
      recordFault := fun calls =>
        match calls with
        | .deleteFile id :: _ => some (.notFound id)
        | _ => none } }

theorem noteEnv_untroubled : noteEnv.Untroubled :=
  ⟨Outside.plain_reliable _, Outside.plain_reliable _, fun _ _ _ => rfl⟩

/-- However many attempts have failed, no record has gone; and once nothing fails, an attempt gives
what it would have given at first, and ends as one attempt without faults would have ended. -/
theorem clearing_retried {clearing : Clearing} {state after : State} (inMemory : state.InMemory)
    (takes : ∀ entry ∈ state.fileEvents.handlers, ∀ failure, entry.2 ≠ .refuser failure)
    (stalled : clearing.Stalled state after) :
    after.files = state.files ∧ ∀ last once : Env, last.Untroubled → once.Untroubled →
      ((clearing.attempt last).runOn after).1 = clearing.outcome state.files ∧
        Alike ((clearing.attempt last).runOn after) ((clearing.attempt once).runOn state) := by
  obtain ⟨kept, files, handlers, removed, among, contents⟩ := stalled.emptying inMemory inMemory
  refine ⟨files, fun last once quiet calm => ?_⟩
  obtain ⟨ended, late, emptied⟩ := clearing.attempt_ok quiet kept (handlers ▸ takes)
  obtain ⟨straight, early, emptied'⟩ := clearing.attempt_ok calm inMemory takes
  rw [files] at late emptied
  rw [late, early]
  refine ⟨rfl, rfl, emptied.files.trans emptied'.files.symm,
    ⟨emptied.inMemory, emptied'.inMemory⟩, ?_⟩
  rw [emptied.content, emptied'.content, contents, lacking_absorbs among]

/-- The first attempt cannot remove the content, the second one cannot remove the record; the third
one ends as if there had been no other. -/
theorem clearing_retried_note :
    ∃ after, (Clearing.owned ⟨"user", "tenant", "note"⟩ .nil).Stalled noteWatched after ∧
      (noteWatched.content? "test/1970/01/user/tenant/note.txt").isSome ∧
      after.content? "test/1970/01/user/tenant/note.txt" = none ∧
      after.files = noteWatched.files ∧
      Alike ((Clearing.attempt noteEnv (.owned ⟨"user", "tenant", "note"⟩ .nil)).runOn after)
        ((Clearing.attempt noteEnv (.owned ⟨"user", "tenant", "note"⟩ .nil)).runOn noteWatched) := by
  let clearing : Clearing := .owned ⟨"user", "tenant", "note"⟩ .nil
  let first := (clearing.attempt { noteEnv with outside := .hoarding }).runOn noteWatched
  let second := (clearing.attempt noteEnvClinging).runOn first.2
  have refused : first.1 =
      .error (.internal (BackendFailure.refused "test/1970/01/user/tenant/note.txt").message) := by
    decide +kernel
  have clung : second.1 = .error (.records (.notFound (.ofNat 1))) := by decide +kernel
  have stalled : clearing.Stalled noteWatched second.2 :=
    .again (.again .nothing _ _ (Prod.ext refused rfl)) _ _ (Prod.ext clung rfl)
  have takes : ∀ entry ∈ noteWatched.fileEvents.handlers, ∀ failure,
      entry.2 ≠ .refuser failure := by
    simp [noteWatched]
  obtain ⟨files, ends⟩ := clearing_retried ⟨_, rfl⟩ takes stalled
  have gone : (second.2.content? "test/1970/01/user/tenant/note.txt").isNone = true := by
    decide +kernel
  exact ⟨second.2, stalled, by decide +kernel, Option.isNone_iff_eq_none.1 gone, files,
    (ends noteEnv noteEnv noteEnv_untroubled noteEnv_untroubled).2⟩

end Depot.Files
