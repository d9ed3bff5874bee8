import Depot.Proofs.Runs

/-!
# Which records share a path

The stored records can be written by four calls.  A refused call changes no record, and under every
other one identifiers stay unique and records without events.  Adding a record asks whether its
path is taken, but overwriting one does not, so that paths stay unique exactly as long as no record
is overwritten with the path of another.
-/

set_option autoImplicit false

namespace Depot.Files

open Act

/-- A call that writes the stored records. -/
inductive Write
  | create (file : File)
  | update (file : File)
  | delete (id : Uuid)
  | deleteOfEntity (entityType entityId : String)

namespace Catalogue

variable {files later : Catalogue} {records : List File} {file : File}

def paths (files : Catalogue) : List Path := files.records.map (·.path)

/-- What a call that does not fail makes of the records. -/
def write (files : Catalogue) : Write → Except Failure Catalogue
  | .create file => files.insert file
  | .update file => files.update file
  | .delete id => .ok (files.erase id)
  | .deleteOfEntity entityType entityId => .ok (files.eraseOfEntity entityType entityId)

/-- No identifier is there twice, and no record carries events. -/
structure InOrder (files : Catalogue) : Prop where
  ids : (files.records.map (·.id)).Nodup
  detached : ∀ file ∈ files.records, file.uncommitted = []

theorem inOrder_empty : InOrder {} := by
  constructor
  · exact .nil
  · simp

theorem InOrder.sublist (inOrder : files.InOrder) (part : records.Sublist files.records) :
    InOrder ⟨records⟩ := by
  constructor
  · exact inOrder.ids.sublist (part.map _)
  · intro file member
    exact inOrder.detached file (part.subset member)

/-! ## Overwriting a record -/

theorem update_ok (updated : files.update file = .ok later) :
    (∃ own ∈ files.records, own.id = file.id) ∧
      later = ⟨replaceFirst file.detached files.records⟩ := by
  unfold update at updated
  split_ifs at updated with known
  exact ⟨by simpa using known, (Except.ok.inj updated).symm⟩

theorem replaceFirst_eq_map (ids : (records.map (·.id)).Nodup) :
    replaceFirst file records = records.map fun old => if old.id = file.id then file else old := by
  induction records with
  | nil => rfl
  | cons old rest ih =>
    rw [List.map_cons, List.nodup_cons] at ids
    obtain ⟨alone, restIds⟩ := ids
    by_cases here : old.id = file.id
    · have others : ∀ other ∈ rest, other.id ≠ file.id := by
        intro other member same
        apply alone
        rw [here, ← same]
        exact List.mem_map_of_mem member
      have kept : rest.map (fun other => if other.id = file.id then file else other) = rest := by
        apply (List.map_congr_left _).trans (List.map_id rest)
        intro other member
        exact if_neg (others other member)
      simp [replaceFirst, here, kept]
    · simp [replaceFirst, here, ih restIds]

theorem InOrder.replace (inOrder : files.InOrder) (file : File) :
    InOrder ⟨replaceFirst file.detached files.records⟩ := by
  rw [replaceFirst_eq_map inOrder.ids]
  constructor
  · rw [List.map_map, List.map_congr_left (g := (·.id))]
    · exact inOrder.ids
    · intro old stored
      change (if old.id = file.detached.id then file.detached else old).id = old.id
      split_ifs with here
      · exact here.symm
      · rfl
  · intro other member
    obtain ⟨old, stored, rfl⟩ := List.mem_map.1 member
    split_ifs
    · rfl
    · exact inOrder.detached old stored

/-- A record that is overwritten shares its path with no other unless it is given the path of one. -/
theorem nodup_paths_replace (inOrder : files.InOrder)
    (known : ∃ own ∈ files.records, own.id = file.id) (paths : files.paths.Nodup) :
    (⟨replaceFirst file.detached files.records⟩ : Catalogue).paths.Nodup ↔
      ∀ other ∈ files.records, other.id ≠ file.id → other.path ≠ file.path := by
  rw [Catalogue.paths, replaceFirst_eq_map inOrder.ids, List.map_map,
    List.nodup_map_iff_inj_on (List.Nodup.of_map _ inOrder.ids)]
  have own (old : File) (here : old.id = file.id) :
      (if old.id = file.detached.id then file.detached else old).path = file.path := by
    rw [if_pos (show old.id = file.detached.id from here)]
    rfl
  have kept (old : File) (other : old.id ≠ file.id) :
      (if old.id = file.detached.id then file.detached else old).path = old.path := by
    rw [if_neg (show old.id ≠ file.detached.id from other)]
  constructor
  · intro apart other member another shared
    obtain ⟨old, stored, here⟩ := known
    have same : old = other := by
      apply apart old stored other member
      exact (own old here).trans (shared.symm.trans (kept other another).symm)
    exact another (same ▸ here)
  · intro apart first here second there shared
    change (if first.id = file.detached.id then file.detached else first).path =
      (if second.id = file.detached.id then file.detached else second).path at shared
    by_cases one : first.id = file.id
    · by_cases two : second.id = file.id
      · exact List.inj_on_of_nodup_map inOrder.ids here there (one.trans two.symm)
      · rw [own first one, kept second two] at shared
        exact absurd shared.symm (apart second there two)
    · by_cases two : second.id = file.id
      · rw [kept first one, own second two] at shared
        exact absurd shared (apart first here one)
      · rw [kept first one, kept second two] at shared
        exact List.inj_on_of_nodup_map paths here there shared

/-! ## One call -/

/-- A record is overwritten with the path of another one. -/
def Clobbers (files : Catalogue) : Write → Prop
  | .update file => ∃ other ∈ files.records, other.id ≠ file.id ∧ other.path = file.path
  | _ => False

theorem InOrder.write (inOrder : files.InOrder) {write : Write}
    (written : files.write write = .ok later) : later.InOrder := by
  cases write with
  | create file =>
    obtain ⟨newId, rfl⟩ := insert_ok written
    constructor
    · exact nodup_map_concat inOrder.ids newId
    · intro other member
      rcases List.mem_append.1 member with stored | last
      · exact inOrder.detached other stored
      · rw [List.mem_singleton.1 last]
        rfl
  | update file =>
    obtain ⟨-, rfl⟩ := update_ok written
    exact inOrder.replace file
  | delete id =>
    obtain rfl := Except.ok.inj written
    exact inOrder.sublist (eraseFirst_sublist id _)
  | deleteOfEntity entityType entityId =>
    obtain rfl := Except.ok.inj written
    exact inOrder.sublist List.filter_sublist

theorem nodup_paths_write (inOrder : files.InOrder) (paths : files.paths.Nodup) {write : Write}
    (written : files.write write = .ok later) : later.paths.Nodup ↔ ¬ files.Clobbers write := by
  cases write with
  | create file =>
    have newPath := insert_newPath written
    obtain ⟨-, rfl⟩ := insert_ok written
    exact iff_of_true (nodup_map_concat paths newPath) not_false
  | update file =>
    obtain ⟨known, rfl⟩ := update_ok written
    rw [nodup_paths_replace inOrder known paths]
    simp [Clobbers]
  | delete id =>
    obtain rfl := Except.ok.inj written
    exact iff_of_true (paths.sublist ((eraseFirst_sublist id _).map _)) not_false
  | deleteOfEntity entityType entityId =>
    obtain rfl := Except.ok.inj written
    exact iff_of_true (paths.sublist (List.filter_sublist.map _)) not_false

end Catalogue

namespace Write

variable {env : Env} {state after : State} {result : Except Failure Unit}

variable (env) in
/-- The call, without what it gives back. -/
def act : Write → Act Failure Unit
  | create file => createRecord env file
  | update file => updateRecord env file
  | delete id => (fun _ => ()) <$> deleteRecord env id
  | deleteOfEntity entityType entityId =>
    (fun _ => ()) <$> deleteRecordsOfEntity env entityType entityId

theorem runOn_updateRecord (env : Env) (file : File) (state : State) :
    (updateRecord env file).runOn state =
      match env.outside.recordFault (.updateFile file :: state.calls) with
      | some failure => (.error failure, state.noted (.updateFile file))
      | none =>
        match state.files.update file with
        | .error failure => (.error failure, state.noted (.updateFile file))
        | .ok files => (.ok (), { state.noted (.updateFile file) with files }) :=
  runOn_write env _ (·.update file) state

/-- A call is refused and changes no record, or does to the records what it is there for. -/
theorem act_cases {write : Write} (ran : (write.act env).runOn state = (result, after)) :
    (∃ failure, result = .error failure ∧ after.files = state.files) ∨
      result = .ok () ∧ state.files.write write = .ok after.files := by
  cases write with
  | create file =>
    rw [act, runOn_createRecord] at ran
    split at ran
    · cases ran
      exact .inl ⟨_, rfl, rfl⟩
    · cases inserted : state.files.insert file with
      | error failure =>
        rw [inserted] at ran
        cases ran
        exact .inl ⟨_, rfl, rfl⟩
      | ok files =>
        rw [inserted] at ran
        cases ran
        exact .inr ⟨rfl, inserted⟩
  | update file =>
    rw [act, runOn_updateRecord] at ran
    split at ran
    · cases ran
      exact .inl ⟨_, rfl, rfl⟩
    · cases updated : state.files.update file with
      | error failure =>
        rw [updated] at ran
        cases ran
        exact .inl ⟨_, rfl, rfl⟩
      | ok files =>
        rw [updated] at ran
        cases ran
        exact .inr ⟨rfl, updated⟩
  | delete id =>
    rw [act, runOn_map, runOn_deleteRecord] at ran
    split at ran <;> cases ran
    · exact .inl ⟨_, rfl, rfl⟩
    · exact .inr ⟨rfl, rfl⟩
  | deleteOfEntity entityType entityId =>
    rw [act, runOn_map, runOn_deleteRecordsOfEntity] at ran
    split at ran <;> cases ran
    · exact .inl ⟨_, rfl, rfl⟩
    · exact .inr ⟨rfl, rfl⟩

/-- The call goes through and gives a record the path of another one. -/
def Usurps (env : Env) (write : Write) (state : State) : Prop :=
  (∃ after, (write.act env).runOn state = (.ok (), after)) ∧ state.files.Clobbers write

theorem step_inOrder (env : Env) (write : Write) (inOrder : state.files.InOrder) :
    ((write.act env).runOn state).2.files.InOrder := by
  cases ran : (write.act env).runOn state with
  | mk result after =>
    rcases act_cases ran with ⟨failure, -, kept⟩ | ⟨-, written⟩
    · change after.files.InOrder
      rw [kept]
      exact inOrder
    · exact inOrder.write written

theorem step_paths (env : Env) (write : Write) (inOrder : state.files.InOrder)
    (paths : state.files.paths.Nodup) :
    ((write.act env).runOn state).2.files.paths.Nodup ↔ ¬ write.Usurps env state := by
  cases ran : (write.act env).runOn state with
  | mk result after =>
    change after.files.paths.Nodup ↔ _
    rcases act_cases ran with ⟨failure, rfl, kept⟩ | ⟨rfl, written⟩
    · rw [kept]
      apply iff_of_true paths
      rintro ⟨⟨other, went⟩, -⟩
      rw [ran] at went
      cases went
    · rw [Catalogue.nodup_paths_write inOrder paths written, not_iff_not]
      constructor
      · intro clobbers
        exact ⟨⟨after, ran⟩, clobbers⟩
      · intro usurps
        exact usurps.2

end Write

/-! ## One call after the other -/

/-- The state after some calls, each in surroundings of its own and whatever it gives back. -/
def writeAll (calls : List (Env × Write)) (state : State) : State :=
  calls.foldl (fun state call => ((call.2.act call.1).runOn state).2) state

section Calls

variable {state : State}

theorem writeAll_concat (calls : List (Env × Write)) (env : Env) (write : Write) (state : State) :
    writeAll (calls ++ [(env, write)]) state =
      ((write.act env).runOn (writeAll calls state)).2 := by
  rw [writeAll, List.foldl_append]
  rfl

theorem writeAll_inOrder (inOrder : state.files.InOrder) (calls : List (Env × Write)) :
    (writeAll calls state).files.InOrder := by
  induction calls generalizing state with
  | nil => exact inOrder
  | cons call rest ih => exact ih (call.2.step_inOrder call.1 inOrder)

/-- **Shared paths.**  In whatever order records are written from none on, identifiers stay unique
and records without events, and a refused call changes no record.  Paths stay unique in every state
exactly if no record is overwritten with the path of another. -/
theorem paths_nodup_iff (nothing : state.files = {}) (calls : List (Env × Write)) :
    (∀ done, done <+: calls → (writeAll done state).files.InOrder ∧
        ∀ env (write : Write) failure after,
          (write.act env).runOn (writeAll done state) = (.error failure, after) →
            after.files = (writeAll done state).files) ∧
      ((∀ done, done <+: calls → (writeAll done state).files.paths.Nodup) ↔
        ∀ done env write, done ++ [(env, write)] <+: calls →
          ¬ write.Usurps env (writeAll done state)) := by
  have inOrder (done : List (Env × Write)) : (writeAll done state).files.InOrder := by
    apply writeAll_inOrder
    rw [nothing]
    exact Catalogue.inOrder_empty
  refine ⟨?_, ?_⟩
  · intro done _
    refine ⟨inOrder done, ?_⟩
    intro env write failure after ran
    rcases Write.act_cases ran with ⟨_, -, kept⟩ | ⟨done, -⟩
    · exact kept
    · cases done
  constructor
  · intro unique done env write part
    have before := unique done ((List.prefix_append done _).trans part)
    have later := unique _ part
    rw [writeAll_concat] at later
    exact (write.step_paths env (inOrder done) before).1 later
  · intro apart done part
    induction done using List.reverseRecOn with
    | nil =>
      rw [writeAll, List.foldl_nil, nothing]
      exact .nil
    | append_singleton done call ih =>
      obtain ⟨env, write⟩ := call
      have before := ih ((List.prefix_append done _).trans part)
      rw [writeAll_concat]
      exact (write.step_paths env (inOrder done) before).2 (apart done env write part)

/-- A text of one user, kept under a name. -/
def noteAt (id : Nat) (path : Path) : File where
  id := .ofNat id
  owner := ⟨"user", "u1", "note"⟩
  filename := path.filename
  path
  metadata := { mimeType := "text/plain", size := 1 }
  createdAt := ⟨0, 0⟩
  updatedAt := ⟨0, 0⟩

def firstPath : Path := ⟨"test", 1970, 1, "user", "u1", "a.txt", by decide⟩

def secondPath : Path := ⟨"test", 1970, 1, "user", "u1", "b.txt", by decide⟩

def thirdPath : Path := ⟨"test", 1970, 1, "user", "u1", "c.txt", by decide⟩

/-- Two files are added, and the second one is given another path. -/
def shelving (path : Path) : List (Env × Write) :=
  [.create (noteAt 1 firstPath), .create (noteAt 2 secondPath), .update (noteAt 2 path)].map
    (⟨⟨0, 0⟩, ⟨"", ""⟩, .plain⟩, ·)

theorem paths_nodup_iff_shelving :
    (writeAll (shelving thirdPath) {}).files.paths = [firstPath, thirdPath] ∧
      (∀ done, done <+: shelving thirdPath → (writeAll done {}).files.InOrder ∧
        ∀ env (write : Write) failure after,
          (write.act env).runOn (writeAll done {}) = (.error failure, after) →
            after.files = (writeAll done {}).files) ∧
      ((∀ done, done <+: shelving thirdPath → (writeAll done {}).files.paths.Nodup) ↔
        ∀ done env write, done ++ [(env, write)] <+: shelving thirdPath →
          ¬ write.Usurps env (writeAll done {})) := by
  refine ⟨?_, paths_nodup_iff rfl _⟩
  decide +kernel

/-- The second file is given the path of the first one. -/
theorem shelving_usurps :
    (writeAll (shelving firstPath) {}).files.paths = [firstPath, firstPath] ∧
      ¬ (writeAll (shelving firstPath) {}).files.paths.Nodup := by
  have paths : (writeAll (shelving firstPath) {}).files.paths = [firstPath, firstPath] := by
    decide +kernel
  refine ⟨paths, ?_⟩
  rw [paths]
  decide

end Calls

end Depot.Files
