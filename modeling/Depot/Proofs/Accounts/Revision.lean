import Depot.Proofs.Runs

/-!
# What work on accounts does to the stored users

A refused request leaves the stored users as they are.  Otherwise a new account is added at
the end, the account that is changed is put in its own place, or the account that is
deleted goes.  What is known of the user that is stored is said once for each use case.
-/

set_option autoImplicit false

namespace Depot

namespace Accounts

open Act

variable {env : Env} {state after : State}

/-! ## New accounts -/

/-- A user that joins the stored ones: it is new by its identifier and its email. -/
structure Joins (env : Env) (users : Users) (given : String) (user : User) : Prop where
  newId : ∀ other ∈ users.records, other.id ≠ user.id
  newEmail : users.findByEmail? user.email = none
  isEmail : isEmail given = true
  email : user.email = Text.trim given
  roles : user.roles ≠ []
  createdAt : user.createdAt = env.now
  updatedAt : user.updatedAt = env.now

/-- How a request for an account may end: it is refused, or an account is found, or one is made
under a name. -/
inductive Enrolment (env : Env) (users : Users) (given : String) (named : Username → Prop) :
    Except Failure (User × List Event) × State → Prop
  | refused {failure : Failure} {after : State} (same : after.users = users) :
    Enrolment env users given named (.error failure, after)
  | found {user : User} {after : State} (same : after.users = users) :
    Enrolment env users given named (.ok (user, []), after)
  | joined {user : User} {after : State} (joins : Joins env users given user)
    (name : named user.username) (more : after.users = ⟨users.records ++ [user.detached]⟩) :
    Enrolment env users given named (.ok (user.detached, user.uncommitted), after)

theorem firstRoles_ne_nil (admin : Bool) : firstRoles admin ≠ [] := by
  cases admin <;> simp [firstRoles]

theorem enrolment_register (env : Env) (request : Registration) (id : Uuid) (state : State) :
    Enrolment env state.users request.email
      (fun name => nameOf request.username = .ok name ∧
        state.users.findByUsername? name.text = none)
      ((register env request id).runOn state) := by
  have told := register_told env request id state
  generalize (register env request id).runOn state = ended at told ⊢
  cases told with
  | refused same => exact .refused same
  | done tells =>
    obtain ⟨name, hash, isEmail, read, newEmail, newName, -, newId, rfl, later⟩ := tells
    exact .joined ⟨newId, newEmail, isEmail, rfl, firstRoles_ne_nil _, rfl, rfl⟩
      ⟨read, newName⟩ later

theorem enrolment_provision (env : Env) (request : Provision) (id : Uuid) (draws : List Nat)
    (state : State) :
    Enrolment env state.users request.email (Named state.users request.displayName draws)
      ((provision env request id draws).runOn state) := by
  have told := provision_told env request id draws state
  generalize (provision env request id draws).runOn state = ended at told ⊢
  cases told with
  | refused same => exact .refused same
  | done tells =>
    obtain ⟨-, -, same⟩ | ⟨isEmail, newEmail, named, newId, rfl, later⟩ := tells
    · exact .found same
    · exact .joined ⟨newId, newEmail, isEmail, rfl, List.cons_ne_nil _ _, rfl, rfl⟩ named later

/-! ## Changed accounts -/

/-- How a user becomes another by the fields that are given. Nobody else is found under a new
name or a new email. -/
inductive Amends (env : Env) (users : Users) : User → User → Prop
  | refl (user : User) : Amends env users user user
  | rename {old user : User} {given : String} {name : Username} (before : Amends env users old user)
    (read : nameOf given = .ok name)
    (own : ∀ other, users.findByUsername? name.text = some other → other.id = user.id) :
    Amends env users old (user.rename name env.now)
  | changeEmail {old user : User} {given : String} (before : Amends env users old user)
    (isEmail : isEmail given = true)
    (own : ∀ other, users.findByEmail? (Text.trim given) = some other → other.id = user.id) :
    Amends env users old (user.changeEmail (Text.trim given) env.now)
  | changePasswordHash {old user : User} (before : Amends env users old user) (hash : String) :
    Amends env users old (user.changePasswordHash hash env.now)
  | assignRoles {old user : User} {roles : List Role} (before : Amends env users old user)
    (filled : roles ≠ []) : Amends env users old (user.assignRoles roles env.now)

variable {users : Users} {old user later : User}

/-- How a change may end: it is refused, or the amended user is put in the place of the old one. -/
inductive Changed (env : Env) (users : Users) (id : Uuid) : Except Failure User × State → Prop
  | refused {failure : Failure} {after : State} (same : after.users = users) :
    Changed env users id (.error failure, after)
  | amended {old user : User} {after : State} (found : users.findById? id = some old)
    (amends : Amends env users old user)
    (later : after.users = ⟨Users.replaceFirst user.detached users.records⟩) :
    Changed env users id (.ok user, after)

theorem Sets.amends {α : Type} {set : α → User → User → Prop} {given : Option α}
    (sets : Sets set given user later) (before : Amends env users old user)
    (step : ∀ {value}, set value user later → Amends env users old later) :
    Amends env users old later := by
  cases sets with
  | missing => exact before
  | given done => exact step done

theorem changed_change (env : Env) (request : Change) (state : State) :
    Changed env state.users request.user ((change env request).runOn state) := by
  have told := change_told env request state
  generalize (change env request).runOn state = ended at told ⊢
  cases told with
  | refused same => exact .refused same
  | done tells =>
    obtain ⟨found, username, email, password, roles, put⟩ := tells
    have renamed := username.amends (.refl _) (by
      rintro text ⟨name, read, own, rfl⟩
      exact .rename (.refl _) read own)
    have moved := email.amends renamed (by
      rintro text ⟨isEmail, own, rfl⟩
      exact .changeEmail renamed isEmail own)
    have hashed := password.amends moved (by
      rintro password ⟨hash, -, rfl⟩
      exact .changePasswordHash moved hash)
    have assigned := roles.amends hashed (by
      rintro roles ⟨filled, rfl⟩
      exact .assignRoles hashed filled)
    exact .amended found assigned put

/-! ## Deleted accounts -/

theorem delete_ends (env : Env) (id correlation : Uuid) (state : State) :
    ((delete env id correlation).runOn state).2.users = state.users ∨
      ((delete env id correlation).runOn state).1.isOk = true ∧
        ((delete env id correlation).runOn state).2.users = state.users.erase id := by
  let Ends (ended : Except Failure User × State) : Prop :=
    ended.2.users = state.users ∨ ended.1.isOk = true ∧ ended.2.users = state.users.erase id
  change Ends ((delete env id correlation).runOn state)
  unfold delete
  refine bind_asking (fun _ _ => .inl) rfl (keeps_userById env _) fun found first asked kept => ?_
  have answer := answer_ok asked
  cases found with
  | none => exact .inl kept
  | some user =>
    obtain rfl : user.id = id := by simpa using List.find?_some answer.symm
    dsimp only
    rw [runOn_bind_ok (runOn_markPending _ first)]
    have told := (accounts_dispatch env user.id { first with
      accountEvents := first.accountEvents.push user.id
        (user.markDeleted correlation env.now).uncommitted }).1
    refine bind_cases (fun failure second ran => ?_) fun _ second ran => ?_
    · have same := congrArg (·.2.users) ran
      exact .inl (same.symm.trans (told.trans kept))
    have same : second.users = state.users := by
      have same := congrArg (·.2.users) ran
      exact same.symm.trans (told.trans kept)
    rw [runOn_bind, runOn_deleteRecord]
    cases env.outside.recordFault (.deleteUser (user.markDeleted correlation env.now).detached.id ::
        second.calls) with
    | some failure => exact .inl same
    | none =>
      refine .inr ⟨rfl, ?_⟩
      rw [← same]
      rfl

theorem users_delete (env : Env) (id correlation : Uuid) (state : State) :
    Leaves (fun after => after.users = state.users ∨ after.users = state.users.erase id)
      ((delete env id correlation).runOn state) :=
  (delete_ends env id correlation state).imp_right And.right

/-! ## One step -/

end Accounts

namespace Operation

open Accounts

/-- The use cases of accounts, with draws as they are made for an ending. -/
def OnAccounts : Operation → Prop
  | register .. | change _ | deleteUser .. => True
  | provision _ _ draws => ProperDraws draws
  | _ => False

/-- What a use case makes of the stored users. -/
inductive Revision (env : Env) (users : Users) : Operation → Users → Prop
  | same (operation : Operation) : Revision env users operation users
  | registered {request : Registration} {id : Uuid} {user : User}
    (joins : Joins env users request.email user)
    (read : nameOf request.username = .ok user.username)
    (free : users.findByUsername? user.username.text = none) :
    Revision env users (.register request id) ⟨users.records ++ [user.detached]⟩
  | provisioned {request : Provision} {id : Uuid} {draws : List Nat} {user : User}
    (joins : Joins env users request.email user)
    (named : Named users request.displayName draws user.username) :
    Revision env users (.provision request id draws) ⟨users.records ++ [user.detached]⟩
  | changed {request : Change} {old user : User} (found : users.findById? request.user = some old)
    (amends : Amends env users old user) :
    Revision env users (.change request) ⟨Users.replaceFirst user.detached users.records⟩
  | deleted (id correlation : Uuid) :
    Revision env users (.deleteUser id correlation) (users.erase id)

theorem revision_next {env : Env} {operation : Operation} (onAccounts : operation.OnAccounts)
    (state : State) : Revision env state.users operation (operation.next env state).users := by
  cases operation with
  | register request id =>
    have enrolment := enrolment_register env request id state
    rw [next]
    generalize (Accounts.register env request id).runOn state = ended at enrolment ⊢
    cases enrolment with
    | refused same => rw [same]; exact .same _
    | found same => rw [same]; exact .same _
    | joined joins name more => rw [more]; exact .registered joins name.1 name.2
  | provision request id draws =>
    have enrolment := enrolment_provision env request id draws state
    rw [next]
    generalize (Accounts.provision env request id draws).runOn state = ended at enrolment ⊢
    cases enrolment with
    | refused same => rw [same]; exact .same _
    | found same => rw [same]; exact .same _
    | joined joins name more => rw [more]; exact .provisioned joins name
  | change request =>
    have changed := changed_change env request state
    rw [next]
    generalize (Accounts.change env request).runOn state = ended at changed ⊢
    cases changed with
    | refused same => rw [same]; exact .same _
    | amended found amends later => rw [later]; exact .changed found amends
  | deleteUser id correlation =>
    rcases users_delete env id correlation state with same | gone
    · rw [next, same]
      exact .same _
    · rw [next, gone]
      exact .deleted id correlation
  | _ => cases onAccounts

end Operation

theorem Step.revision {step : Step} (onAccounts : step.operation.OnAccounts) (state : State) :
    step.operation.Revision step.env state.users (step.next state).users :=
  Operation.revision_next onAccounts state

open Accounts

/-- What each revision keeps of the stored users, a whole run keeps. -/
theorem run_revised {Holds : Users → Prop} {steps : List Step} {state : State}
    (onAccounts : ∀ step ∈ steps, step.operation.OnAccounts)
    (kept : ∀ {env : Env} {users : Users} {operation : Operation} {later : Users},
      operation.Revision env users later → Holds users → Holds later)
    (holds : Holds state.users) : Holds (run steps state).users := by
  induction steps generalizing state with
  | nil => exact holds
  | cons step rest ih =>
    have revision := Step.revision (onAccounts step (.head _)) state
    exact ih (fun later member => onAccounts later (.tail _ member)) (kept revision holds)

end Depot
