import Depot.Proofs.Runs

/-!
# Records and contents over whole runs

From empty stores, a run without faults leaves records and contents in exact
correspondence after every step.  Where contents may be refused or fail to be removed,
every record still has the content that was uploaded for it; all that may be left over
are contents without a record.
-/

set_option autoImplicit false

namespace Depot

/-- Records and contents correspond: no content is without its record, and every record has
a content of its size and media type. -/
structure Corresponds (files : Files.Catalogue) (blobs : Blobs.Memory) : Prop where
  ids : (files.records.map (·.id)).Nodup
  paths : (files.records.map (·.path)).Nodup
  keys : ∀ key, blobs.contains key = true ↔ ∃ file ∈ files.records, file.path.text = key
  contents : ∀ file ∈ files.records, ∃ content, blobs.get? file.path.text = some content ∧
    content.bytes.size = file.metadata.size ∧ content.mimeType = file.metadata.mimeType

/-- Every record has the content that was uploaded for it. -/
structure Carries (files : Files.Catalogue) (blobs : Blobs.Memory) (calls : List Call) : Prop where
  paths : (files.records.map (·.path)).Nodup
  contents : ∀ file ∈ files.records, ∃ content, blobs.get? file.path.text = some content ∧
    uploadedFor file.id calls = some content ∧
    content.bytes.size = file.metadata.size ∧ content.mimeType = file.metadata.mimeType

section

variable {state : State} {issued : Uuid → Prop}

theorem sound_of_empty (files : state.files = {}) (contents : state.blobs = .memory {}) :
    state.Sound (fun _ => False) ∧ state.holdings.Exact := by
  have nobody : state.holdings.records = [] := congrArg Files.Catalogue.records files
  refine ⟨⟨⟨{}, contents⟩, ⟨by simp [nobody], by simp [nobody], by simp [nobody]⟩, ?_, ?_⟩, ?_⟩
  · simp [Holdings.Owned, nobody]
  · simp [files]
  · intro path
    rw [State.holdings_eq contents, files]
    simp [Blobs.Memory.get?]

theorem State.Sound.carries (sound : state.Sound issued) :
    ∃ blobs, state.blobs = .memory blobs ∧ Carries state.files blobs state.calls := by
  obtain ⟨blobs, inMemory⟩ := sound.inMemory
  have backed := sound.backed
  rw [State.holdings_eq inMemory] at backed
  exact ⟨blobs, inMemory, backed.paths, backed.contents⟩

theorem State.Sound.corresponds (sound : state.Sound issued) (exact : state.holdings.Exact) :
    ∃ blobs, state.blobs = .memory blobs ∧ Corresponds state.files blobs := by
  obtain ⟨blobs, inMemory⟩ := sound.inMemory
  have backed := sound.backed
  rw [State.holdings_eq inMemory] at backed exact
  refine ⟨blobs, inMemory, backed.ids, backed.paths, exact, fun file member => ?_⟩
  obtain ⟨content, found, -, facts⟩ := backed.contents file member
  exact ⟨content, found, facts⟩

end

section Runs

variable {steps done : List Step} {state : State}

theorem nodup_of_isPrefix (part : done <+: steps) (distinct : (fileIds steps).Nodup) :
    (fileIds done).Nodup :=
  distinct.sublist (part.sublist.filterMap _)

/-- After every step of a run without faults, records and contents correspond exactly. -/
theorem run_corresponds (files : state.files = {}) (contents : state.blobs = .memory {})
    (reliable : ∀ step ∈ steps, step.env.outside.Reliable "files" ∧
      step.env.outside.Reliable "storage")
    (distinct : (fileIds steps).Nodup) (part : done <+: steps) :
    ∃ blobs, (run done state).blobs = .memory blobs ∧
      Corresponds (run done state).files blobs := by
  obtain ⟨sound, exact⟩ := sound_of_empty files contents
  have steady : ∀ step ∈ done, step.Steady state.accountEvents.handlers := fun step member =>
    have free := reliable step (part.subset member)
    ⟨free.1, .inr free.2, fun _ _ _ => .inr free.2⟩
  obtain ⟨last, exactly⟩ := run_sound steady (nodup_of_isPrefix part distinct) (fun _ _ => id) sound
  exact last.corresponds (exactly (fun step member => (reliable step (part.subset member)).2) exact)

theorem run_corresponds_replacement :
    (run (replacement .plain .nil) (.initial {})).files.records.length = 1 ∧
      ∃ blobs, (run (replacement .plain .nil) (.initial {})).blobs = .memory blobs ∧
        Corresponds (run (replacement .plain .nil) (.initial {})).files blobs := by
  refine ⟨by decide +kernel, run_corresponds rfl rfl (fun step member => ?_) (by decide)
    List.prefix_rfl⟩
  rw [outside_of_replacement member]
  exact ⟨Outside.plain_reliable "files", Outside.plain_reliable "storage"⟩

/-- After every step of a run in which contents may be refused or fail to be removed, every
record has the content that was uploaded for it, as long as nothing stops at a failure. -/
theorem run_carries (files : state.files = {}) (contents : state.blobs = .memory {})
    (reliable : ∀ step ∈ steps, step.env.outside.Reliable "files")
    (goesOn : ∀ step ∈ steps, step.operation.GoesOn)
    (handlers : ∀ topic policy, (topic, .fileRemover policy) ∈ state.accountEvents.handlers →
      policy.continueOnItemFailure = true)
    (distinct : (fileIds steps).Nodup) (part : done <+: steps) :
    ∃ blobs, (run done state).blobs = .memory blobs ∧
      Carries (run done state).files blobs (run done state).calls := by
  have steady : ∀ step ∈ done, step.Steady state.accountEvents.handlers := fun step member =>
    ⟨reliable step (part.subset member), .inl (goesOn step (part.subset member)),
      fun topic policy listed => .inl (handlers topic policy listed)⟩
  exact (run_sound steady (nodup_of_isPrefix part distinct) (fun _ _ => id)
    (sound_of_empty files contents).1).1.carries

/-- The content of the replaced file is left over, and the new record has its own. -/
theorem run_carries_replacement :
    (run (replacement .hoarding .nil) (.initial {})).files.records.length = 1 ∧
      ((run (replacement .hoarding .nil) (.initial {})).content?
        "test/1970/01/user/00000000-0000-0000-0000-000000000000/first.txt").isSome ∧
      ∃ blobs, (run (replacement .hoarding .nil) (.initial {})).blobs = .memory blobs ∧
        Carries (run (replacement .hoarding .nil) (.initial {})).files blobs
          (run (replacement .hoarding .nil) (.initial {})).calls := by
  refine ⟨by decide +kernel, by decide +kernel, run_carries rfl rfl (fun step member => ?_)
    (fun step member => ?_) (fun topic policy listed => ?_) (by decide) List.prefix_rfl⟩
  · rw [outside_of_replacement member]
    exact Outside.hoarding_reliable (by decide)
  · obtain ⟨_, -, rfl⟩ := List.mem_map.1 member
    trivial
  · obtain ⟨rfl, rfl⟩ : topic = .userDeleted ∧ policy = {} := by
      simpa [State.initial] using listed
    rfl

end Runs

end Depot
