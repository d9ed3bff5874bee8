import Depot.Proofs.Accounts.WellFormed

/-!
# Names of stored and of returned users

A name is stored as it was read or drawn, in the form of slugs.  Nothing else is needed for that
than that endings are drawn as they should be: the clock may run as it likes, calls may fail, and
requests of any kind may come in between.  A user that a use case gives back is named like a stored
one.
-/

set_option autoImplicit false

namespace Depot

namespace Accounts

open Act

/-- Every stored user has a name in the form that reading gives. -/
def Users.Normal (users : Users) : Prop := ∀ user ∈ users.records, user.username.Normal

end Accounts

namespace Frame

open Accounts

/-- The names of the stored users stay in form. -/
def naming : Frame := .preserving fun state => state.users.Normal

theorem naming_of_users {before after : State} (same : after.users = before.users) :
    naming.Allows before after := by
  intro normal
  rw [same]
  exact normal

theorem naming_files (recorded : Files.File → Prop) : naming.AdmitsFiles recorded where
  note _ _ _ _ := id
  insert _ _ _ _ _ := id
  thin _ _ _ := id
  change _ _ _ := id

theorem naming_fileEvents : naming.AdmitsFileEvents where
  tell _ _ _ := id
  turn _ _ _ := id

theorem naming_accountEvents : naming.AdmitsAccountEvents where
  tell _ _ _ := id
  turn _ _ _ := id

end Frame

namespace Accounts

open Act

variable {env : Env} {state after : State} {users : Users} {old user : User}

/-! ## Use cases -/

theorem Amends.normal (amends : Amends env users old user) (normal : old.username.Normal) :
    user.username.Normal := by
  induction amends with
  | refl => exact normal
  | rename _ read _ _ => exact nameOf_normal read
  | changeEmail _ _ _ ih => exact ih
  | changePasswordHash _ _ ih => exact ih
  | assignRoles _ _ ih => exact ih

theorem Enrolment.normal {given : String} {named : Username → Prop}
    {ended : Except Failure (User × List Event) × State}
    (enrolment : Enrolment env state.users given named ended)
    (naming : ∀ name, named name → name.Normal) : Frame.naming.Allows state ended.2 := by
  cases enrolment with
  | refused same => exact Frame.naming_of_users same
  | found same => exact Frame.naming_of_users same
  | joined joins name more =>
    intro normal other member
    rw [more] at member
    rcases List.mem_append.1 member with present | last
    · exact normal other present
    · rw [List.mem_singleton.1 last]
      exact naming _ name

theorem named_register (request : Registration) (id : Uuid) :
    (register env request id).Keeps .naming := by
  intro state
  apply (enrolment_register env request id state).normal
  intro name named
  exact nameOf_normal named.1

theorem named_provision (request : Provision) (id : Uuid) {draws : List Nat}
    (proper : ProperDraws draws) : (provision env request id draws).Keeps .naming := by
  intro state
  apply (enrolment_provision env request id draws state).normal
  intro name named
  exact named.normal proper

theorem named_change (request : Change) : (change env request).Keeps .naming := by
  intro state
  have changed := changed_change env request state
  generalize (change env request).runOn state = ended at changed ⊢
  cases changed with
  | refused same => exact Frame.naming_of_users same
  | amended found amends later =>
    intro normal other member
    rw [later] at member
    rcases mem_replaceFirst member with rfl | present
    · exact amends.normal (normal _ (List.mem_of_find?_eq_some found))
    · exact normal other present

theorem named_delete (id correlation : Uuid) : (delete env id correlation).Keeps .naming := by
  intro state
  rcases users_delete env id correlation state with same | gone
  · exact Frame.naming_of_users same
  · intro normal other member
    rw [gone] at member
    exact normal other (List.mem_filter.1 member).1

/-! ## Users given back -/

theorem stored_of_provision {request : Provision} {id : Uuid} {draws : List Nat}
    {events : List Event}
    (ran : (provision env request id draws).runOn state = (.ok (user, events), after)) :
    user ∈ after.users.records ∧ user.email = Text.trim request.email := by
  cases (provision_told env request id draws state).of_ok ran with
  | found isEmail known same =>
    rw [same]
    exact ⟨List.mem_of_find?_eq_some known, by simpa using List.find?_some known⟩
  | made isEmail newEmail named recorded =>
    obtain ⟨newId, value, later⟩ := recorded
    obtain ⟨rfl, -⟩ := Prod.mk.inj value
    rw [later]
    exact ⟨List.mem_append_right _ (List.mem_singleton_self _), rfl⟩

end Accounts

namespace Service

open Accounts

variable {env : Env} {app : App} {drawn : Drawn}

theorem named_announceUser (user : User) (events : List Event) :
    (announceUser env user events).Keeps .naming :=
  kept_announceUser (Frame.naming_files fun _ => True) Frame.naming_accountEvents user events

theorem named_act (proper : ProperDraws drawn.ending) (request : Request) :
    (act env app drawn request).Keeps .naming := by
  have files := Frame.naming_files fun _ => True
  cases asked : request.wish with
  | none => exact Files.kept_looking files (keeps_act env app drawn asked)
  | some wish =>
    rw [act_of_wish env app drawn asked]
    cases wish with
    | createUser =>
      refine .bind (.ofExcept _) fun body => ?_
      refine .bind (.mapFailure _ (named_register _ _)) fun made => ?_
      exact .bind (named_announceUser _ _) fun _ => .pure _
    | provisionUser =>
      refine .bind (.ofExcept _) fun body => ?_
      refine .bind (.mapFailure _ (named_provision _ _ proper)) fun made => ?_
      exact .bind (named_announceUser _ _) fun _ => .pure _
    | changeUser id =>
      refine .bind (Files.kept_looking files (keeps_uuidPart _)) fun id => ?_
      refine .bind (.ofExcept _) fun body => ?_
      exact .bind (.mapFailure _ (named_change _)) fun _ => .pure _
    | deleteUser id =>
      refine .bind (Files.kept_looking files (keeps_uuidPart _)) fun id => ?_
      exact .bind (.mapFailure _ (named_delete _ _)) fun _ => .pure _
    | upload entityType entityId field =>
      apply kept_fileWish files Frame.naming_fileEvents rfl
      intro _ _ _ _ _ _ _
      exact Files.kept_upload files _ _ fun _ => trivial
    | clearSlot entityType entityId field =>
      exact kept_fileWish files Frame.naming_fileEvents rfl (by simp)
    | deleteFile id => exact kept_fileWish files Frame.naming_fileEvents rfl (by simp)

end Service

open Accounts

namespace Operation

variable {env : Env} {operation : Operation} {state : State}

/-- The ending of a name that may be needed is drawn as it should be. -/
def Draws : Operation → Prop
  | provision _ _ draws => ProperDraws draws
  | serve _ drawn _ => ProperDraws drawn.ending
  | _ => True

theorem named_next (draws : operation.Draws) (state : State) :
    Frame.naming.Allows state (operation.next env state) := by
  have files := Frame.naming_files fun _ => True
  cases operation with
  | register request id =>
    rw [next]
    exact named_register request id state
  | provision request id _ =>
    rw [next]
    exact named_provision request id draws state
  | change request =>
    rw [next]
    exact named_change request state
  | deleteUser id correlation =>
    rw [next]
    exact named_delete id correlation state
  | upload strategy request id =>
    rw [next]
    exact Files.kept_upload files _ _ (fun _ => trivial) state
  | removeFile id =>
    rw [next]
    exact Files.kept_remove files id state
  | removeFileOf owner correlation =>
    rw [next]
    exact Files.kept_removeOfOwner files Frame.naming_fileEvents owner correlation state
  | removeFilesOfUser policy user =>
    rw [next]
    exact Files.kept_removeOfUser files policy user state
  | serve app drawn request =>
    rw [next_serve]
    exact Service.named_act draws request state

/-- A use case ends well and gives a user back. -/
def Gives (env : Env) (operation : Operation) (state : State) (user : User) : Prop :=
  match operation with
  | register request id =>
    ∃ events after, (Accounts.register env request id).runOn state = (.ok (user, events), after)
  | provision request id draws => ∃ events after,
    (Accounts.provision env request id draws).runOn state = (.ok (user, events), after)
  | change request => ∃ after, (Accounts.change env request).runOn state = (.ok user, after)
  | _ => False

theorem Gives.normal {user : User} (gives : operation.Gives env state user)
    (draws : operation.Draws) (normal : state.users.Normal) : user.username.Normal := by
  have later : (operation.next env state).users.Normal := named_next draws state normal
  cases operation with
  | register request id =>
    obtain ⟨events, after, ran⟩ := gives
    rw [next, ran] at later
    apply later
    rw [(register_ok ran).later]
    simp
  | provision request id draws =>
    obtain ⟨events, after, ran⟩ := gives
    rw [next, ran] at later
    exact later user (stored_of_provision ran).1
  | change request =>
    obtain ⟨after, ran⟩ := gives
    have changed := changed_change env request state
    rw [ran] at changed
    cases changed with
    | amended found amends later =>
      exact amends.normal (normal _ (List.mem_of_find?_eq_some found))
  | _ => cases gives

end Operation

theorem run_normal {state : State} {steps : List Step}
    (draws : ∀ step ∈ steps, step.operation.Draws) (normal : state.users.Normal) :
    (run steps state).users.Normal := by
  induction steps generalizing state with
  | nil => exact normal
  | cons step rest ih =>
    apply ih
    · intro later member
      exact draws later (.tail _ member)
    · exact Operation.named_next (draws step (.head _)) state normal

end Depot
