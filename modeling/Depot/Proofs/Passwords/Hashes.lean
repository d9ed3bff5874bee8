import Depot.Proofs.Accounts.Keys

/-!
# What stored hashes are made of

A hash is stored only for a password that is given, and is what the hasher made of it.  So what
each use case does to the stored users is told together with the password that was given, for the
user it is about; and what is on file of passwords, user by user, is kept up with it.
-/

set_option autoImplicit false

namespace Depot.Accounts

open Act

/-- A password that was given, with the services that were there to hash it. -/
structure Given where
  outside : Outside
  password : String

/-- A hash that is made of a password: there is one just if there is the other. -/
inductive HashOf : Option Given → Option String → Prop
  | nothing : HashOf none none
  | made (given : Given) (calls : List Call) : HashOf (some given)
    (some (given.outside.hash (.hashPassword given.password :: calls) given.password))

/-- How stored users are left by what is done with a password that may be given: they are the same,
one joins, one is changed, or one goes.  The identifier is that of a user that is changed. -/
inductive Outcome (users : Users) (given : Option Given) : Option Uuid → Users → Prop
  | same {later : Users} (same : later = users) : Outcome users given none later
  | joined {user : User} {later : Users} (newId : ∀ other ∈ users.records, other.id ≠ user.id)
    (hash : HashOf given user.passwordHash) (more : later = ⟨users.records ++ [user.detached]⟩) :
    Outcome users given none later
  | changed {id : Uuid} {old user : User} {later : Users} (found : users.findById? id = some old)
    (own : user.id = id)
    (hash : ∀ {known}, HashOf known old.passwordHash → HashOf (given <|> known) user.passwordHash)
    (put : later = ⟨Users.replaceFirst user.detached users.records⟩) :
    Outcome users given (some id) later
  | erased {later : Users} (id : Uuid) (gone : later = users.erase id) :
    Outcome users given none later

variable {env : Env} {state after : State} {users later : Users} {old user : User}

/-- The password that a request gives in some surroundings. -/
def givenIn (env : Env) (password : Option String) : Option Given :=
  password.map (Given.mk env.outside)

/-! ## Use cases -/

theorem hashOf_made {given hash : Option String} {before after : List Call}
    (made : Option.Rel (HashMade env before after) given hash) : HashOf (givenIn env given) hash := by
  cases made with
  | none => exact .nothing
  | @some password hash made =>
    cases made
    exact .made ⟨env.outside, password⟩ _

theorem outcome_register (env : Env) (request : Registration) (id : Uuid) (state : State) :
    Leaves (fun after => Outcome state.users (givenIn env request.password) none after.users)
      ((register env request id).runOn state) := by
  have told := register_told env request id state
  generalize (register env request id).runOn state = ended at told ⊢
  cases told with
  | refused same => exact .same same
  | done tells =>
    obtain ⟨name, hash, registered⟩ := tells
    exact .joined registered.recorded.newId (hashOf_made registered.made) registered.recorded.later

theorem outcome_provision (env : Env) (request : Provision) (id : Uuid) (draws : List Nat)
    (state : State) :
    Leaves (fun after => Outcome state.users none none after.users)
      ((provision env request id draws).runOn state) := by
  have told := provision_told env request id draws state
  generalize (provision env request id draws).runOn state = ended at told ⊢
  cases told with
  | refused same => exact .same same
  | done tells =>
    cases tells with
    | found isEmail known same => exact .same same
    | made isEmail newEmail named recorded => exact .joined recorded.newId .nothing recorded.later

theorem outcome_delete (env : Env) (id correlation : Uuid) (state : State) :
    Leaves (fun after => Outcome state.users none none after.users)
      ((delete env id correlation).runOn state) := by
  rcases users_delete env id correlation state with same | gone
  · exact .same same
  · exact .erased id gone

/-! ## Changes -/

theorem HashOf.orElse {given known : Option Given} {hash old : Option String}
    (made : HashOf given hash) (before : HashOf known old) :
    HashOf (given <|> known) (hash <|> old) := by
  cases made with
  | nothing => exact before
  | made given calls => exact .made given calls

/-- A change that is refused changes nobody; otherwise it changes the user that it names. -/
def ChangeOutcome {ε α : Type} (users : Users) (given : Option Given) (id : Uuid)
    (ended : Except ε α × State) : Prop :=
  Outcome users given (if ended.1.isOk then some id else none) ended.2.users

theorem outcome_change (env : Env) (request : Change) (state : State) :
    ChangeOutcome state.users (givenIn env request.password) request.user
      ((change env request).runOn state) := by
  have told := change_told env request state
  generalize (change env request).runOn state = ended at told ⊢
  cases told with
  | refused same => exact .same same
  | done tells =>
    obtain ⟨found, username, email, password, roles, put⟩ := tells
    have own := List.find?_some found
    obtain ⟨name, -, rfl⟩ := username.renamed
    obtain rfl := email.moved
    obtain ⟨hash, made, rfl⟩ := password.rehashed
    obtain rfl := roles.assigned
    exact .changed found (by simpa using own) (hashOf_made made).orElse put

/-! ## What is on file -/

/-- What is on file of passwords, user by user: what a user joins with, and what a user is changed
with if anything; nothing where there is no user. -/
def entered (known : Uuid → Option Given) (given : Option Given) (changed : Option Uuid)
    (users later : Users) (id : Uuid) : Option Given :=
  if changed = some id then given <|> known id
  else if (users.findById? id).isSome then known id
  else if (later.findById? id).isSome then given
  else none

/-- Every stored hash is made of the password on file. -/
def Users.Filed (users : Users) (known : Uuid → Option Given) : Prop :=
  ∀ user ∈ users.records, HashOf (known user.id) user.passwordHash

theorem isSome_findById? (member : user ∈ users.records) : (users.findById? user.id).isSome := by
  rw [Users.findById?, List.find?_isSome]
  exact ⟨user, member, by simp⟩

theorem findById?_new (newId : ∀ other ∈ users.records, other.id ≠ user.id) :
    users.findById? user.id = none := by
  rw [Users.findById?, List.find?_eq_none]
  simpa using newId

theorem mem_replaceFirst_of_nodup {records : List User} {other : User}
    (ids : (records.map (·.id)).Nodup) (member : other ∈ Users.replaceFirst user records) :
    other = user ∨ other ∈ records ∧ other.id ≠ user.id := by
  rw [replaceFirst_eq_map ids] at member
  obtain ⟨stored, present, rfl⟩ := List.mem_map.1 member
  split_ifs with here
  · exact .inl rfl
  · exact .inr ⟨present, here⟩

variable {known : Uuid → Option Given} {given : Option Given} {changed : Option Uuid}

theorem Outcome.ids (outcome : Outcome users given changed later)
    (ids : (users.records.map (·.id)).Nodup) : (later.records.map (·.id)).Nodup := by
  cases outcome with
  | same same => rwa [same]
  | joined newId hash more =>
    rw [more]
    exact nodup_map_concat ids newId
  | changed found own hash put =>
    rw [put]
    exact nodup_replaceFirst ids ids fun _ _ another => another
  | erased id gone =>
    rw [gone]
    exact nodup_erase ids id

theorem Outcome.filed (outcome : Outcome users given changed later)
    (ids : (users.records.map (·.id)).Nodup) (filed : users.Filed known) :
    later.Filed (entered known given changed users later) := by
  -- Whoever was stored before and is not changed has what was on file.
  have stays {other : User} (present : other ∈ users.records) (unchanged : changed ≠ some other.id) :
      HashOf (entered known given changed users later other.id) other.passwordHash := by
    rw [entered, if_neg unchanged, if_pos (isSome_findById? present)]
    exact filed other present
  intro other member
  cases outcome with
  | same same => exact stays (same ▸ member) (by simp)
  | @joined user _ newId hash more =>
    have there := isSome_findById? member
    rw [more] at member
    rcases List.mem_append.1 member with present | last
    · exact stays present (by simp)
    · obtain rfl := List.mem_singleton.1 last
      have new : users.findById? user.detached.id = none := findById?_new newId
      rw [entered, if_neg (by simp), new, if_neg (by simp), if_pos there]
      exact hash
  | @changed id old user _ found own hash put =>
    obtain rfl : old.id = id := by simpa using List.find?_some found
    have sameId : user.detached.id = old.id := own
    rw [put] at member
    rcases mem_replaceFirst_of_nodup ids member with rfl | ⟨present, another⟩
    · rw [sameId, entered, if_pos rfl]
      exact hash (filed old (List.mem_of_find?_eq_some found))
    · exact stays present fun same => another ((Option.some.inj same).symm.trans own.symm)
  | erased id gone =>
    rw [gone] at member
    exact stays (List.mem_filter.1 member).1 (by simp)

end Depot.Accounts
