import Depot.Proofs.Accounts.Keys

/-!
# Writes to accounts are whole or not at all

The fields of a change are set on a copy, and only the finished copy is stored.  So a fault in any
field leaves no trace of the fields before it.  Otherwise one record is written: a new user stands
behind the others, and a changed one in its own place with just the given fields set.
-/

set_option autoImplicit false

namespace Depot.Accounts

open Act

variable {env : Env} {state after : State} {request : Change} {old user : User}

/-! ## What a change makes of a user -/

/-- Whether a change gives any field. -/
def Change.setsAny (request : Change) : Bool :=
  request.username.isSome || request.email.isSome || request.password.isSome ||
    request.roles.isSome

/-- The fields that a change gives are set, and the rest of the user stays. -/
structure Fulfils (env : Env) (before after : List Call) (request : Change) (old user : User) :
    Prop where
  id : user.id = old.id
  username : user.username.text = (request.username.map slug).getD old.username.text
  email : user.email = (request.email.map Text.trim).getD old.email
  passwordHash : ∃ hash, Option.Rel (HashMade env before after) request.password hash ∧
    user.passwordHash = (hash <|> old.passwordHash)
  roles : user.roles = request.roles.getD old.roles
  createdAt : user.createdAt = old.createdAt
  updatedAt : user.updatedAt = if request.setsAny then env.now else old.updatedAt
  uncommitted : user.uncommitted = old.uncommitted

theorem Carried.fulfils (carried : Carried env state request user after) :
    ∃ old, state.users.findById? request.user = some old ∧
      Fulfils env state.calls after.calls request old user := by
  obtain ⟨found, username, email, password, roles, -⟩ := carried
  -- each user on the way is the one before it with one field set
  obtain ⟨name, text, rfl⟩ := username.renamed
  obtain rfl := email.moved
  obtain ⟨hash, made, rfl⟩ := password.rehashed
  obtain rfl := roles.assigned
  refine ⟨_, found, rfl, text, rfl, ⟨hash, made, rfl⟩, rfl, rfl, ?_, rfl⟩
  simp only [Change.setsAny, Bool.or_eq_true]
  split_ifs <;> simp_all

/-! ## Faults -/

/-- A field of a change cannot be set, or there is nobody to set it for. -/
inductive Change.Faulty (env : Env) (users : Users) (request : Change) : Prop
  | nobody (unknown : users.findById? request.user = none)
  | noName {text : String} {fault : UsernameFault} (given : request.username = some text)
    (refused : Username.parse text = .error fault)
  | takenName {text : String} {other : User} (given : request.username = some text)
    (taken : users.findByUsername? (slug text) = some other) (another : other.id ≠ request.user)
  | noEmail {text : String} (given : request.email = some text) (refused : isEmail text = false)
  | takenEmail {text : String} {other : User} (given : request.email = some text)
    (taken : users.findByEmail? (Text.trim text) = some other) (another : other.id ≠ request.user)
  | emptyPassword (given : request.password = some "")
  | noHash {password : String} (given : request.password = some password)
    (fails : ∀ earlier, (env.outside.recordFault (.hashPassword password :: earlier)).isSome)
  | noRoles (given : request.roles = some [])

theorem Sets.of_some {α : Type} {set : α → User → User → Prop} {given : Option α} {value : α}
    {user later : User} (sets : Sets set given user later) (here : given = some value) :
    set value user later := by
  subst here
  cases sets with
  | given done => exact done

theorem Carried.not_faulty (carried : Carried env state request user after) :
    ¬ request.Faulty env state.users := by
  obtain ⟨found, username, email, password, roles, -⟩ := carried
  have own := List.find?_some found
  rw [decide_eq_true_eq] at own
  intro faulty
  cases faulty with
  | nobody unknown =>
    rw [found] at unknown
    cases unknown
  | noName given refused =>
    obtain ⟨name, read, -⟩ := username.of_some given
    rw [nameOf_eq_ok_iff, refused] at read
    cases read
  | takenName given taken another =>
    obtain ⟨name, read, alone, -⟩ := username.of_some given
    rw [Username.text_of_check (nameOf_eq_ok_iff.1 read)] at alone
    exact another ((alone _ taken).trans own)
  | noEmail given refused =>
    obtain ⟨isEmail, -⟩ := email.of_some given
    rw [refused] at isEmail
    cases isEmail
  | takenEmail given taken another =>
    obtain ⟨-, alone, -⟩ := email.of_some given
    obtain ⟨name, -, rfl⟩ := username.renamed
    exact another ((alone _ taken).trans own)
  | emptyPassword given =>
    obtain ⟨hash, made, -⟩ := password.of_some given
    cases made with
    | made filled => exact filled rfl
  | noHash given fails =>
    obtain ⟨hash, made, -⟩ := password.of_some given
    cases made with
    | @made earlier _ _ _ answered =>
      have failed := fails earlier
      rw [answered] at failed
      cases failed
  | noRoles given => exact (roles.of_some given).1 rfl

/-! ## Without fault -/

section Faultless

variable {given : Option String}

theorem refuseOther_own {id : Uuid} {what : String} {found : Option User}
    (own : ∀ other, found = some other → other.id = id) :
    (refuseOther id what found).runOn state = (.ok (), state) := by
  cases found with
  | none => rfl
  | some other =>
    rw [refuseOther, if_neg (not_not.2 (own other rfl))]
    rfl

theorem Key.apply_carried {α : Type} (key : Key α) (users : env.outside.Reliable "users")
    (fine : ∀ text, given = some text → ∃ value, key.read text = .ok value ∧
      ∀ other, key.holder? value state.users = some other → other.id = user.id) :
    ∃ later after, (key.apply env user given).runOn state = (.ok later, after) := by
  cases given with
  | none => exact ⟨user, state, rfl⟩
  | some text =>
    obtain ⟨value, read, own⟩ := fine text rfl
    have reading : (Act.ofExcept (key.read text)).runOn state = (.ok value, state) := by
      rw [runOn_ofExcept, read]
    rw [Key.apply, runOn_bind_ok reading,
      runOn_bind_ok (asked_ok users (key.goes value) (key.holder? value)),
      runOn_bind_ok (refuseOther_own own)]
    exact ⟨_, _, rfl⟩

theorem applyUsername_carried (users : env.outside.Reliable "users")
    (fine : ∀ text, given = some text → ∃ name, Username.parse text = .ok name ∧
      ∀ other, state.users.findByUsername? (slug text) = some other → other.id = user.id) :
    ∃ later after, (applyUsername env user given).runOn state = (.ok later, after) := by
  rw [applyUsername_eq]
  refine Key.username.apply_carried users fun text here => ?_
  obtain ⟨name, read, own⟩ := fine text here
  rw [← Username.text_of_check read] at own
  simp only [Key.username]
  exact ⟨name, nameOf_eq_ok_iff.2 read, own⟩

theorem applyEmail_carried (users : env.outside.Reliable "users")
    (fine : ∀ text, given = some text → isEmail text = true ∧
      ∀ other, state.users.findByEmail? (Text.trim text) = some other → other.id = user.id) :
    ∃ later after, (applyEmail env user given).runOn state = (.ok later, after) := by
  rw [applyEmail_eq]
  refine Key.email.apply_carried users fun text here => ?_
  obtain ⟨isEmail, own⟩ := fine text here
  simp only [Key.email]
  rw [checkEmail, if_pos isEmail]
  exact ⟨Text.trim text, rfl, own⟩

theorem applyPassword_carried (hasher : env.outside.Reliable "hasher") (filled : given ≠ some "") :
    ∃ later after, (applyPassword env user given).runOn state = (.ok later, after) := by
  cases given with
  | none => exact ⟨user, state, rfl⟩
  | some password =>
    have answered : (hashGiven env (some password)).runOn state =
        (.ok (some (env.outside.hash (.hashPassword password :: state.calls) password)),
          state.noted (.hashPassword password)) := by
      have given : ¬ password.isEmpty = true := by simpa using filled
      rw [hashGiven, if_neg given, hashed, runOn_map, runOn_bind, runOn_note,
        hasher.record (.hashPassword password) _ rfl]
      rfl
    rw [applyPassword, runOn_bind_ok answered]
    exact ⟨_, _, rfl⟩

theorem applyRoles_carried {given : Option (List Role)} (filled : given ≠ some []) :
    ∃ later after, (applyRoles env user given).runOn state = (.ok later, after) := by
  cases given with
  | none => exact ⟨user, state, rfl⟩
  | some roles =>
    have given : ¬ roles.isEmpty = true := by simpa using filled
    rw [applyRoles, if_neg given]
    exact ⟨_, _, rfl⟩

theorem updateRecord_carried (users : env.outside.Reliable "users")
    (known : ∃ other ∈ state.users.records, other.id = user.id) :
    ∃ after, (updateRecord env user).runOn state = (.ok (), after) := by
  have there : state.users.records.any (·.id = user.id) = true := by simpa using known
  have same : (state.noted (.updateUser user)).users = state.users := rfl
  rw [updateRecord, runOn_bind, runOn_callRecords, users.record (.updateUser user) _ rfl]
  dsimp only
  rw [runOn_storeChanged, same, Users.update, if_pos there]
  exact ⟨_, rfl⟩

theorem Change.name_of_faultless {users : Users} (faultless : ¬ request.Faulty env users)
    {text : String} (given : request.username = some text) :
    ∃ name, Username.parse text = .ok name ∧
      ∀ other, users.findByUsername? (slug text) = some other → other.id = request.user := by
  cases read : Username.parse text with
  | error fault => exact absurd (.noName given read) faultless
  | ok name =>
    refine ⟨name, rfl, fun other taken => ?_⟩
    by_contra another
    exact faultless (.takenName given taken another)

theorem Change.email_of_faultless {users : Users} (faultless : ¬ request.Faulty env users)
    {text : String} (given : request.email = some text) :
    isEmail text = true ∧
      ∀ other, users.findByEmail? (Text.trim text) = some other → other.id = request.user := by
  constructor
  · by_contra refused
    exact faultless (.noEmail given (Bool.eq_false_iff.2 refused))
  · intro other taken
    by_contra another
    exact faultless (.takenEmail given taken another)

theorem change_carried (users : env.outside.Reliable "users")
    (hasher : env.outside.Reliable "hasher") (faultless : ¬ request.Faulty env state.users) :
    ∃ user after, (change env request).runOn state = (.ok user, after) := by
  cases found : state.users.findById? request.user with
  | none => exact absurd (.nobody found) faultless
  | some old =>
    have own := List.find?_some found
    rw [decide_eq_true_eq] at own
    -- each field is set on what the one before it left: the same users and the same identifier
    have asking := @userById_ok env users state request.user
    rw [found] at asking
    obtain ⟨renamed, second, naming⟩ := @applyUsername_carried env
      (state.noted (.findUserById request.user)) old request.username users
      fun text given => own ▸ Change.name_of_faultless faultless given
    have kept : second.users = state.users := by
      rw [users_of_run (keeps_applyUsername env _ _) naming, State.noted_users]
    have renamedId : renamed.id = request.user := by
      obtain ⟨name, -, rfl⟩ := (applyUsername_ok naming).renamed
      exact own
    obtain ⟨moved, third, moving⟩ := @applyEmail_carried env second renamed request.email users
      fun text given => by
        rw [kept, renamedId]
        exact Change.email_of_faultless faultless given
    obtain ⟨hashed, fourth, hashing⟩ := @applyPassword_carried env third moved request.password
      hasher fun given => faultless (.emptyPassword given)
    obtain ⟨user, fifth, assigning⟩ := @applyRoles_carried env fourth hashed request.roles
      fun given => faultless (.noRoles given)
    have last : fifth.users = state.users := by
      rw [users_of_run (keeps_applyRoles env _ _) assigning,
        users_of_run (keeps_applyPassword env _ _) hashing,
        users_of_run (keeps_applyEmail env _ _) moving, kept]
    have userId : user.id = request.user := by
      obtain rfl := (applyEmail_ok moving).moved
      obtain ⟨hash, -, rfl⟩ := (applyPassword_ok hashing).rehashed
      obtain rfl := (applyRoles_ok assigning).assigned
      exact renamedId
    obtain ⟨after, updating⟩ := @updateRecord_carried env fifth user users
      ⟨old, last ▸ List.mem_of_find?_eq_some found, own.trans userId.symm⟩
    rw [change, runOn_bind_ok asking]
    dsimp only
    rw [runOn_bind_ok naming, runOn_bind_ok moving, runOn_bind_ok hashing, runOn_bind_ok assigning,
      runOn_bind_ok updating]
    exact ⟨user, after, rfl⟩

end Faultless

/-! ## Whole or not at all -/

/-- Whatever fails leaves the stored users as they were.  A user that is registered or provided with
a new account stands behind the others.  A change is carried out on the one record it is for, with
just the fields it gives; one with a fault is not carried out at all, and one without is, wherever
users and hasher answer. -/
theorem writes_whole_or_not (env : Env) {state : State}
    (ids : (state.users.records.map (·.id)).Nodup) :
    (∀ request id,
      AllOrNothing state.users (fun value after =>
        after.users.records = state.users.records ++ [value.1] ∧
          ∃ name hash, Registered env state request id name hash value after)
        ((register env request id).runOn state)) ∧
    (∀ request id draws,
      AllOrNothing state.users (fun value after =>
        (value.2 = [] ∧ after.users = state.users ∨
          after.users.records = state.users.records ++ [value.1]) ∧
          Provisions env state request id draws value after)
        ((provision env request id draws).runOn state)) ∧
    (∀ request : Change,
      AllOrNothing state.users (fun user after =>
        ∃ old ∈ state.users.records, old.id = request.user ∧
          Fulfils env state.calls after.calls request old user ∧
          after.users.records = state.users.records.map fun other =>
            if other.id = request.user then user.detached else other)
        ((change env request).runOn state)) ∧
    ∀ request : Change,
      (request.Faulty env state.users →
        ∃ failure after, (change env request).runOn state = (.error failure, after) ∧
          after.users = state.users) ∧
      (env.outside.Reliable "users" → env.outside.Reliable "hasher" →
        ¬ request.Faulty env state.users →
          ∃ user after, (change env request).runOn state = (.ok user, after)) := by
  refine ⟨fun request id => ?_, fun request id draws => ?_, fun request => ?_,
    fun request => ⟨fun faulty => ?_, change_carried⟩⟩
  · refine (register_told env request id state).imp fun value after told => ?_
    obtain ⟨name, hash, registered⟩ := told
    refine ⟨?_, name, hash, registered⟩
    rw [registered.recorded.later, registered.recorded.value]
  · refine (provision_told env request id draws state).imp fun value after told => ⟨?_, told⟩
    cases told with
    | found isEmail known same => exact .inl ⟨rfl, same⟩
    | made isEmail newEmail named recorded =>
      right
      rw [recorded.later, recorded.value]
  · refine (change_told env request state).imp fun user after carried => ?_
    obtain ⟨old, found, fulfils⟩ := carried.fulfils
    have own := List.find?_some found
    rw [decide_eq_true_eq] at own
    refine ⟨old, List.mem_of_find?_eq_some found, own, fulfils, ?_⟩
    cases carried with
    | intro _ _ _ _ _ put =>
      have sameId : user.detached.id = request.user := fulfils.id.trans own
      rw [put, replaceFirst_eq_map ids, sameId]
  · have told := change_told env request state
    generalize (change env request).runOn state = ended at told ⊢
    cases told with
    | refused same => exact ⟨_, _, rfl, same⟩
    | done carried => exact absurd faulty carried.not_faulty

def twoRegistered : State :=
  run [⟨.plain, .register { username := "Ada", email := "ada@example.org" } (.ofNat 1)⟩,
    ⟨.plain, .register { username := "Ben", email := "ben@example.org" } (.ofNat 2)⟩] {}

/-- A new name is not kept where the roles that come with it are missing, and is by itself. -/
theorem writes_whole_or_not_twoRegistered :
    (twoRegistered.users.records.map (·.id)).Nodup ∧
      (∃ failure after,
        (change .plain ⟨.ofNat 1, some "Ada L", none, none, some []⟩).runOn twoRegistered =
          (.error failure, after) ∧ after.users = twoRegistered.users) ∧
      ∃ user after,
        (change .plain ⟨.ofNat 1, some "Ada L", none, none, none⟩).runOn twoRegistered =
          (.ok user, after) ∧ user.username.text = "ada_l" ∧
          after.users.records.length = 2 := by
  have ids : (twoRegistered.users.records.map (·.id)).Nodup := by decide +kernel
  obtain ⟨-, -, changes, faults⟩ := writes_whole_or_not .plain ids
  refine ⟨ids, (faults _).1 (.noRoles rfl), ?_⟩
  have name : slug "Ada L" = "ada_l" := by decide +kernel
  have ends := changes ⟨.ofNat 1, some "Ada L", none, none, none⟩
  have goes : ((change .plain ⟨.ofNat 1, some "Ada L", none, none, none⟩).runOn
    twoRegistered).1.isOk = true := by decide +kernel
  generalize (change .plain ⟨.ofNat 1, some "Ada L", none, none, none⟩).runOn
    twoRegistered = ended at ends goes
  cases ends with
  | refused same => cases goes
  | done tells =>
    obtain ⟨old, stored, own, fulfils, later⟩ := tells
    refine ⟨_, _, rfl, fulfils.username.trans name, ?_⟩
    rw [later, List.length_map]
    decide +kernel

end Depot.Accounts
