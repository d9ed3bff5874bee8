import Depot.Proofs.Accounts.Endings
import Depot.Proofs.Accounts.Usernames

/-!
# Stored users are in order

As long as the clock does not run backwards, every run of use cases from no users leaves
users with identifiers and emails of their own, each with a trimmed email, a name in the
form of slugs, a role and its times in order.
-/

set_option autoImplicit false

namespace Depot

namespace Accounts

/-- A stored user that is in order. -/
structure User.WellFormed (user : User) : Prop where
  filled : user.email ≠ ""
  trimmed : Text.trim user.email = user.email
  atSign : '@' ∈ user.email.toList
  username : user.username.Normal
  roles : user.roles ≠ []
  times : user.createdAt.le user.updatedAt = true
  detached : user.uncommitted = []

/-- Stored users that are in order, and none twice. -/
structure Users.WellFormed (users : Users) : Prop where
  ids : (users.records.map (·.id)).Nodup
  emails : (users.records.map (·.email)).Nodup
  each : ∀ user ∈ users.records, user.WellFormed

/-- No user has been changed after a time. -/
def Users.ChangedBy (users : Users) (time : Instant) : Prop :=
  ∀ user ∈ users.records, user.updatedAt.le time = true

variable {env : Env} {users later : Users} {old user : User} {given : String}

theorem Users.wellFormed_empty : Users.WellFormed {} := by
  constructor
  · exact .nil
  · exact .nil
  · simp

/-! ## Parts of a user -/

theorem mem_of_isEmail (isEmail : isEmail given = true) : '@' ∈ (Text.trim given).toList := by
  simpa [Accounts.isEmail] using isEmail

theorem ne_empty_of_mem {s : String} {c : Char} (member : c ∈ s.toList) : s ≠ "" := by
  rintro rfl
  cases member

theorem nameOf_normal {name : Username} (read : nameOf given = .ok name) : name.Normal :=
  Username.parse_normal (nameOf_eq_ok_iff.1 read)

theorem Named.normal {draws : List Nat} {name : Username} (proper : ProperDraws draws)
    (named : Named users given draws name) : name.Normal := by
  cases named with
  | own read free => exact nameOf_normal read
  | drawn read taken made => exact uniqueName_normal (nameOf_normal read) proper made

theorem Joins.wellFormed (joins : Joins env users given user) (normal : user.username.Normal) :
    user.detached.WellFormed := by
  have atSign := mem_of_isEmail joins.isEmail
  rw [← joins.email] at atSign
  have times : user.createdAt.le user.updatedAt = true := by
    rw [joins.createdAt, joins.updatedAt]
    exact Instant.le_refl env.now
  have trimmed : Text.trim user.email = user.email := by
    rw [joins.email]
    exact Text.trim_trim given
  exact ⟨ne_empty_of_mem atSign, trimmed, atSign, normal, joins.roles, times, rfl⟩

theorem Amends.updatedAt (amends : Amends env users old user)
    (before : old.updatedAt.le env.now = true) : user.updatedAt.le env.now = true := by
  induction amends with
  | refl => exact before
  | rename _ _ _ _ => exact Instant.le_refl env.now
  | changeEmail _ _ _ _ => exact Instant.le_refl env.now
  | changePasswordHash _ _ _ => exact Instant.le_refl env.now
  | assignRoles _ _ _ => exact Instant.le_refl env.now

theorem Amends.wellFormed (amends : Amends env users old user) (sound : old.WellFormed)
    (before : old.updatedAt.le env.now = true) : user.WellFormed := by
  induction amends with
  | refl => exact sound
  | rename earlier read own ih =>
    have times := Instant.le_trans ih.times (earlier.updatedAt before)
    exact { ih with username := nameOf_normal read, times }
  | changeEmail earlier isEmail own ih =>
    have times := Instant.le_trans ih.times (earlier.updatedAt before)
    have atSign := mem_of_isEmail isEmail
    exact { ih with filled := ne_empty_of_mem atSign, trimmed := Text.trim_trim _, atSign, times }
  | changePasswordHash earlier hash ih =>
    have times := Instant.le_trans ih.times (earlier.updatedAt before)
    exact { ih with times }
  | assignRoles earlier filled ih =>
    have times := Instant.le_trans ih.times (earlier.updatedAt before)
    exact { ih with roles := filled, times }

/-! ## The stored users -/

theorem Users.WellFormed.distinct (sound : users.WellFormed) : users.Distinct :=
  ⟨sound.ids, sound.emails⟩

theorem Users.WellFormed.join (sound : users.WellFormed) (joins : Joins env users given user)
    (normal : user.username.Normal) :
    Users.WellFormed ⟨users.records ++ [user.detached]⟩ := by
  obtain ⟨ids, emails⟩ := sound.distinct.join joins
  refine ⟨ids, emails, ?_⟩
  intro other member
  rcases List.mem_append.1 member with present | last
  · exact sound.each other present
  · rw [List.mem_singleton.1 last]
    exact joins.wellFormed normal

theorem Users.WellFormed.replace (sound : users.WellFormed) (member : old ∈ users.records)
    (amends : Amends env users old user) (before : old.updatedAt.le env.now = true) :
    Users.WellFormed ⟨Users.replaceFirst user.detached users.records⟩ := by
  obtain ⟨ids, emails⟩ := sound.distinct.replace member amends
  refine ⟨ids, emails, ?_⟩
  intro other present
  rcases mem_replaceFirst present with rfl | stays
  · have amended := amends.wellFormed (sound.each old member) before
    exact { amended with detached := rfl }
  · exact sound.each other stays

theorem Users.WellFormed.erase (sound : users.WellFormed) (id : Uuid) :
    (users.erase id).WellFormed := by
  obtain ⟨ids, emails⟩ := sound.distinct.erase id
  refine ⟨ids, emails, ?_⟩
  intro user member
  exact sound.each user (List.mem_filter.1 member).1

end Accounts

open Accounts

namespace Operation.Revision

variable {env : Env} {operation : Operation} {users later : Users}

theorem wellFormed (revision : operation.Revision env users later)
    (onAccounts : operation.OnAccounts) (sound : users.WellFormed)
    (clock : users.ChangedBy env.now) : later.WellFormed := by
  cases revision with
  | same => exact sound
  | registered joins read free => exact sound.join joins (nameOf_normal read)
  | provisioned joins named => exact sound.join joins (named.normal onAccounts)
  | @changed request old user found amends =>
    have member : old ∈ users.records := List.mem_of_find?_eq_some found
    exact sound.replace member amends (clock old member)
  | deleted id correlation => exact sound.erase id

theorem changedBy (revision : operation.Revision env users later)
    (clock : users.ChangedBy env.now) : later.ChangedBy env.now := by
  have joined : ∀ {given : String} {user : User}, Joins env users given user →
      Users.ChangedBy ⟨users.records ++ [user.detached]⟩ env.now := by
    intro given user joins other member
    rcases List.mem_append.1 member with present | last
    · exact clock other present
    · rw [List.mem_singleton.1 last]
      have time : user.detached.updatedAt = env.now := joins.updatedAt
      rw [time]
      exact Instant.le_refl env.now
  cases revision with
  | same => exact clock
  | registered joins read free => exact joined joins
  | provisioned joins named => exact joined joins
  | @changed request old user found amends =>
    intro other member
    rcases mem_replaceFirst member with rfl | present
    · exact amends.updatedAt (clock old (List.mem_of_find?_eq_some found))
    · exact clock other present
  | deleted id correlation =>
    intro other member
    exact clock other (List.mem_filter.1 member).1

end Operation.Revision

section Run

variable {state : State} {steps : List Step}

/-- Where the clock does not run backwards, what each revision keeps of users that have not been
changed after its time, a whole run keeps. -/
theorem run_clocked {Sound : Users → Prop} (onAccounts : ∀ step ∈ steps, step.operation.OnAccounts)
    (clock : steps.Pairwise fun early late => early.env.now.le late.env.now = true)
    (kept : ∀ {env : Env} {operation : Operation} {users later : Users}, operation.OnAccounts →
      operation.Revision env users later → users.ChangedBy env.now → Sound users → Sound later)
    (sound : Sound state.users) (changed : ∀ step ∈ steps, state.users.ChangedBy step.env.now) :
    Sound (run steps state).users := by
  induction steps generalizing state with
  | nil => exact sound
  | cons step rest ih =>
    obtain ⟨onwards, clock⟩ := List.pairwise_cons.1 clock
    have revision := Step.revision (onAccounts step (.head _)) state
    have here := changed step (.head _)
    refine ih (fun later member => onAccounts later (.tail _ member)) clock
      (kept (onAccounts step (.head _)) revision here sound) ?_
    intro later member user stored
    exact Instant.le_trans (revision.changedBy here user stored) (onwards later member)

theorem run_keeps_wellFormed (onAccounts : ∀ step ∈ steps, step.operation.OnAccounts)
    (clock : steps.Pairwise fun early late => early.env.now.le late.env.now = true)
    (sound : state.users.WellFormed)
    (changed : ∀ step ∈ steps, state.users.ChangedBy step.env.now) :
    (run steps state).users.WellFormed :=
  run_clocked onAccounts clock (fun onAccounts revision changed sound =>
    revision.wellFormed onAccounts sound changed) sound changed

/-- Once three users are there, the second is given a padded email and the first is deleted. -/
def tenancy : List Step :=
  namesakes [0, 0, 0, 0, 1] ++
    [.change { user := .ofNat 2, email := some " moved@example.org " },
      .deleteUser (.ofNat 1) .nil].map fun operation => ⟨⟨⟨1, 0⟩, ⟨"", ""⟩, .plain⟩, operation⟩

/-- After any run from no users whose clock does not run backwards, the stored users are in
order. -/
theorem run_wellFormed (nobody : state.users = {})
    (onAccounts : ∀ step ∈ steps, step.operation.OnAccounts)
    (clock : steps.Pairwise fun early late => early.env.now.le late.env.now = true) :
    (run steps state).users.WellFormed := by
  refine run_keeps_wellFormed onAccounts clock ?_ ?_
  · rw [nobody]
    exact Users.wellFormed_empty
  · intro step member
    rw [nobody]
    intro user stored
    cases stored

theorem run_wellFormed_tenancy :
    (run tenancy {}).users.records.map (·.email) = ["moved@example.org", "third@example.org"] ∧
      (run tenancy {}).users.WellFormed := by
  refine ⟨by decide +kernel, run_wellFormed rfl ?_ (by decide +kernel)⟩
  intro step member
  rcases List.mem_append.1 member with early | late
  · exact namesakes_onAccounts ⟨rfl, by decide⟩ step early
  · simp only [List.map_cons, List.map_nil, List.mem_cons, List.not_mem_nil, or_false] at late
    rcases late with rfl | rfl <;> trivial

end Run

end Depot
