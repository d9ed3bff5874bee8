import Depot.Proofs.Accounts.Keys

/-!
# Who shares a name

Every use case asks for the name it stores before it stores it, but for a provision that
has drawn an ending: the drawn name is stored unasked.  Names stay unique exactly as long
as no drawn name is taken.
-/

set_option autoImplicit false

namespace Depot

namespace Accounts

def Users.names (users : Users) : List String := users.records.map (·.username.text)

variable {env : Env} {users later : Users} {operation : Operation} {user : User}

theorem mem_names_iff (text : String) :
    text ∈ users.names ↔ (users.findByUsername? text).isSome := by
  simp [Users.names, Users.findByUsername?]

theorem not_mem_names {text : String} (free : users.findByUsername? text = none) :
    text ∉ users.names := by
  rw [mem_names_iff, free]
  simp

theorem names_append : (⟨users.records ++ [user.detached]⟩ : Users).names =
    users.names ++ [user.username.text] := by
  rw [Users.names, List.map_append]
  rfl

theorem nodup_names_append (names : users.names.Nodup) :
    (⟨users.records ++ [user.detached]⟩ : Users).names.Nodup ↔
      user.username.text ∉ users.names := by
  rw [names_append, List.nodup_append]
  constructor
  · rintro ⟨-, -, apart⟩ taken
    exact apart _ taken _ (List.mem_singleton_self _) rfl
  · intro free
    refine ⟨names, List.nodup_singleton _, ?_⟩
    intro name member last own
    rw [List.mem_singleton.1 own]
    rintro rfl
    exact free member

end Accounts

open Accounts

/-- The use case adds an account under a drawn name that a stored user has already. -/
def Operation.Collides (operation : Operation) (users later : Users) : Prop :=
  ∃ request id draws name drawn, operation = .provision request id draws ∧
    nameOf request.displayName = .ok name ∧ name.text ∈ users.names ∧
    uniqueName name.text draws = .ok drawn ∧ drawn.text ∈ users.names ∧
    users.records.length < later.records.length

namespace Operation

variable {env : Env} {users later : Users} {operation : Operation}

theorem not_collides (other : ∀ request id draws, operation ≠ .provision request id draws) :
    ¬ operation.Collides users later := by
  rintro ⟨request, id, draws, -, -, same, -⟩
  exact other request id draws same

theorem Collides.grows (collides : operation.Collides users later) :
    users.records.length < later.records.length := by
  obtain ⟨-, -, -, -, -, -, -, -, -, -, more⟩ := collides
  exact more

/-- Names stay unique unless one is added that was drawn and is taken. -/
theorem Revision.names_iff (revision : operation.Revision env users later)
    (ids : (users.records.map (·.id)).Nodup) (names : users.names.Nodup) :
    later.names.Nodup ↔ ¬ operation.Collides users later := by
  cases revision with
  | same => exact iff_of_true names fun collides => lt_irrefl _ collides.grows
  | registered joins read free =>
    exact iff_of_true ((nodup_names_append names).2 (not_mem_names free)) (not_collides (by simp))
  | @provisioned request id draws user joins named =>
    rw [nodup_names_append names]
    cases named with
    | own read free =>
      refine ⟨fun _ collides => ?_, fun _ => not_mem_names free⟩
      obtain ⟨_, _, _, name, drawn, same, again, taken, -⟩ := collides
      cases same
      rw [read, Except.ok.injEq] at again
      rw [← again] at taken
      exact not_mem_names free taken
    | @drawn name _ read taken made =>
      rw [not_iff_not]
      constructor
      · intro stored
        exact ⟨request, id, draws, name, user.username, rfl, read, (mem_names_iff _).2 taken, made,
          stored, by simp⟩
      · rintro ⟨_, _, _, other, drawn, same, again, -, madeToo, stored, -⟩
        cases same
        rw [read, Except.ok.injEq] at again
        rw [← again, made, Except.ok.injEq] at madeToo
        rw [madeToo]
        exact stored
  | @changed request old user found amends =>
    have member : old ∈ users.records := List.mem_of_find?_eq_some found
    have kept : (⟨Users.replaceFirst user.detached users.records⟩ : Users).names.Nodup :=
      nodup_replaceFirst ids names (amends.username names member)
    exact iff_of_true kept (not_collides (by simp))
  | deleted id correlation => exact iff_of_true (nodup_erase names id) (not_collides (by simp))

end Operation

/-! ## Runs -/

/-- Whether a step adds an account under a drawn name that is taken. -/
def Step.Collides (step : Step) (state : State) : Prop :=
  step.operation.Collides state.users (step.next state).users

section Run

variable {state : State} {steps : List Step}

theorem run_concat (steps : List Step) (step : Step) (state : State) :
    run (steps ++ [step]) state = step.next (run steps state) := by
  rw [run, List.foldl_append]
  rfl

theorem run_ids (onAccounts : ∀ step ∈ steps, step.operation.OnAccounts)
    (ids : (state.users.records.map (·.id)).Nodup) :
    ((run steps state).users.records.map (·.id)).Nodup :=
  @run_revised (fun users => (users.records.map (·.id)).Nodup) steps state onAccounts
    ids_revised ids

/-- Two users register, and a third is provided with an account who asks for the name of the
second. -/
def namesakes (draws : List Nat) : List Step :=
  [.register { username := "ana_aaaaa", email := "first@example.org" } (.ofNat 1),
    .register { username := "ana", email := "second@example.org" } (.ofNat 2),
    .provision { displayName := "Ana", email := "third@example.org" } (.ofNat 3) draws].map
      fun operation => ⟨⟨⟨0, 0⟩, ⟨"", ""⟩, .plain⟩, operation⟩

theorem namesakes_onAccounts {draws : List Nat} (proper : ProperDraws draws) :
    ∀ step ∈ namesakes draws, step.operation.OnAccounts := by
  simpa [namesakes, Operation.OnAccounts] using proper

/-- In a run from no users, names are unique in every state exactly if no step adds an account
under a drawn name that is taken. -/
theorem names_nodup_iff (nobody : state.users = {})
    (onAccounts : ∀ step ∈ steps, step.operation.OnAccounts) :
    (∀ done, done <+: steps → (run done state).users.names.Nodup) ↔
      ∀ done step, done ++ [step] <+: steps → ¬ step.Collides (run done state) := by
  have one : ∀ done step, done ++ [step] <+: steps → (run done state).users.names.Nodup →
      ((run (done ++ [step]) state).users.names.Nodup ↔ ¬ step.Collides (run done state)) := by
    intro done step part names
    have allowed : ∀ other ∈ done ++ [step], other.operation.OnAccounts :=
      fun other member => onAccounts other (part.subset member)
    have ids : ((run done state).users.records.map (·.id)).Nodup := by
      refine run_ids (fun other member => allowed other (List.mem_append_left _ member)) ?_
      rw [nobody]
      exact .nil
    have revision := Step.revision (allowed step (by simp)) (run done state)
    rw [run_concat]
    exact revision.names_iff ids names
  constructor
  · intro unique done step part
    have before := unique done ((List.prefix_append done [step]).trans part)
    exact (one done step part before).1 (unique _ part)
  · intro apart done part
    induction done using List.reverseRecOn with
    | nil =>
      rw [run, List.foldl_nil, nobody]
      exact .nil
    | append_singleton done step ih =>
      have before := ih ((List.prefix_append done [step]).trans part)
      exact (one done step part before).2 (apart done step part)

theorem names_nodup_iff_namesakes :
    (run (namesakes [0, 0, 0, 0, 1]) {}).users.names = ["ana_aaaaa", "ana", "ana_aaaab"] ∧
      ((∀ done, done <+: namesakes [0, 0, 0, 0, 1] → (run done {}).users.names.Nodup) ↔
        ∀ done step, done ++ [step] <+: namesakes [0, 0, 0, 0, 1] →
          ¬ step.Collides (run done {})) :=
  ⟨by decide +kernel, names_nodup_iff rfl (namesakes_onAccounts ⟨rfl, by decide⟩)⟩

/-- The first user has the name that is drawn for the third. -/
theorem namesakes_collide :
    (∀ step ∈ namesakes [0, 0, 0, 0, 0], step.operation.OnAccounts) ∧
      (run (namesakes [0, 0, 0, 0, 0]) {}).users.names = ["ana_aaaaa", "ana", "ana_aaaaa"] ∧
      ¬ (run (namesakes [0, 0, 0, 0, 0]) {}).users.names.Nodup := by
  have names : (run (namesakes [0, 0, 0, 0, 0]) {}).users.names =
      ["ana_aaaaa", "ana", "ana_aaaaa"] := by decide +kernel
  refine ⟨namesakes_onAccounts ⟨rfl, by decide⟩, names, ?_⟩
  rw [names]
  decide

end Run

end Depot
