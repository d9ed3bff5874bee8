import Depot.Proofs.Files.Moves

/-!
# What work on files leaves alone

Work on files touches no account, keeps contents in memory where they are, and makes
records under no other identifier than the one drawn for it.  This holds for any
faults, so it is told of every part of the work, and of the whole by closure.
-/

set_option autoImplicit false

namespace Depot

namespace Frame

/-- What both of two frames allow. -/
def both (first second : Frame) : Frame where
  Allows before after := first.Allows before after ∧ second.Allows before after
  stay state := ⟨first.stay state, second.stay state⟩
  chain early late := ⟨first.chain early.1 late.1, second.chain early.2 late.2⟩

/-- Contents stay in memory, and records are made under certain identifiers only. -/
def making (makes : Uuid → Prop) : Frame where
  Allows before after := (before.InMemory → after.InMemory) ∧
    ∃ added, after.calls = added ++ before.calls ∧
      ∀ call ∈ added, ∀ id, call.creates id = true → makes id
  stay state := ⟨id, [], rfl, by simp⟩
  chain := by
    rintro first second third ⟨memory, early, earlyCalls, earlyMakes⟩
      ⟨memory', late, lateCalls, lateMakes⟩
    refine ⟨memory' ∘ memory, late ++ early, ?_, fun call member => ?_⟩
    · rw [lateCalls, earlyCalls, List.append_assoc]
    · rcases List.mem_append.1 member with member | member
      · exact lateMakes call member
      · exact earlyMakes call member

/-- What work on files does at most: it makes records under certain identifiers and
leaves the accounts alone. -/
def filing (makes : Uuid → Prop) : Frame := (making makes).both sparingAccounts

/-- Nothing that is stored is changed or asked to be stored. -/
def sparing : Frame := sparingFiles.both sparingAccounts

variable {makes more : Uuid → Prop} {before after : State}

theorem making_mono (wider : ∀ id, makes id → more id)
    (moved : (making makes).Allows before after) : (making more).Allows before after := by
  obtain ⟨memory, added, calls, made⟩ := moved
  exact ⟨memory, added, calls, fun call member id creates =>
    wider id (made call member id creates)⟩

theorem making_of_sparingFiles (spared : sparingFiles.Allows before after) :
    (making makes).Allows before after := by
  obtain ⟨-, blobs, added, calls, spares⟩ := spared
  refine ⟨fun ⟨memory, inMemory⟩ => ⟨memory, blobs.trans inMemory⟩, added, calls, ?_⟩
  intro call member id creates
  rw [Call.creates_of_stores (spares call member) id] at creates
  contradiction

theorem sparing_of_looking (looked : looking.Allows before after) : sparing.Allows before after :=
  ⟨sparingFiles_of_looking looked, sparingAccounts_of_looking looked⟩

theorem filing_of_sparing (spared : sparing.Allows before after) :
    (filing makes).Allows before after :=
  ⟨making_of_sparingFiles spared.1, spared.2⟩

theorem filing_admits : (filing makes).AdmitsFiles (makes ·.id) where
  note state call _ records := by
    refine ⟨⟨id, [call], rfl, ?_⟩, rfl, rfl⟩
    intro other member id creates
    obtain rfl : other = call := by simpa using member
    cases other with
    | createFile file =>
      have same : file.id = id := by simpa [Call.creates] using creates
      exact same ▸ records file rfl
    | _ => cases creates
  insert _ _ _ _ _ := ⟨⟨id, [], rfl, by simp⟩, rfl, rfl⟩
  thin _ _ _ := ⟨⟨id, [], rfl, by simp⟩, rfl, rfl⟩
  change _ _ inMemory := ⟨⟨inMemory, [], rfl, by simp⟩, rfl, rfl⟩

theorem sparing_admits : sparing.AdmitsFileEvents where
  tell _ handler event := ⟨⟨rfl, rfl, [.handledFile handler event], rfl, by simp [Call.stores]⟩,
    rfl, rfl⟩
  turn _ _ _ := ⟨⟨rfl, rfl, [], rfl, by simp⟩, rfl, rfl⟩

theorem filing_admits_events : (filing makes).AdmitsFileEvents where
  tell state handler event := filing_of_sparing (sparing_admits.tell state handler event)
  turn state fileEvents same := filing_of_sparing (sparing_admits.turn state fileEvents same)

theorem inMemory_of_sparing (spared : sparing.Allows before after) (inMemory : before.InMemory) :
    after.InMemory := by
  obtain ⟨⟨-, blobs, -⟩, -⟩ := spared
  obtain ⟨memory, inMemory⟩ := inMemory
  exact ⟨memory, blobs.trans inMemory⟩

theorem holdings_of_sparingFiles (spared : sparingFiles.Allows before after) :
    after.holdings = before.holdings :=
  State.holdings_congr spared.1 spared.2.1

theorem uploadedFor_of_making (moved : (making makes).Allows before after) {id : Uuid}
    (other : ¬ makes id) : uploadedFor id after.calls = uploadedFor id before.calls := by
  obtain ⟨-, added, calls, made⟩ := moved
  rw [calls]
  refine uploadedFor_append (fun call member => ?_) before.calls
  cases creates : call.creates id with
  | false => rfl
  | true => exact absurd (made call member id creates) other

end Frame

namespace Act

variable {ε α : Type} {act : Act ε α} {makes : Uuid → Prop}

theorem Keeps.spares (kept : act.Keeps .looking) : act.Keeps .sparing := fun state =>
  Frame.sparing_of_looking (kept state)

end Act

namespace Files

open Act

variable (env : Env) {makes : Uuid → Prop}

theorem keeps_remove (id : Uuid) : (remove env id).Keeps (.filing makes) :=
  kept_remove Frame.filing_admits id

theorem keeps_dispatch (id : Uuid) : (dispatch env id).Keeps .sparing :=
  kept_dispatch Frame.sparing_admits id

theorem keeps_enqueue {ε : Type} (events : List Event) :
    (enqueue events : Act ε Unit).Keeps .sparing :=
  kept_enqueue Frame.sparing_admits events

theorem keeps_markPending {ε : Type} (file : File) :
    (markPending file : Act ε File).Keeps .sparing :=
  kept_markPending Frame.sparing_admits file

theorem keeps_removeOfOwner (owner : Owner) (correlation : Uuid) :
    (removeOfOwner env owner correlation).Keeps (.filing makes) :=
  kept_removeOfOwner Frame.filing_admits Frame.filing_admits_events owner correlation

theorem keeps_removeContents (policy : CascadePolicy) (files : List File) :
    (removeContents env policy files).Keeps (.filing makes) :=
  kept_removeContents Frame.filing_admits policy files

theorem keeps_removeOfUser (policy : CascadePolicy) (user : Uuid) :
    (removeOfUser env policy user).Keeps (.filing makes) :=
  kept_removeOfUser Frame.filing_admits policy user

end Files

end Depot
