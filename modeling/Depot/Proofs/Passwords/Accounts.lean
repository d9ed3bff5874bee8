import Depot.Proofs.Accounts.Moves
import Depot.Proofs.Passwords.Files

/-!
# Work on accounts looks alike

Work on accounts asks whether a password is given and whether it is empty, and nothing else of it.
Requests that agree on that end alike, with users that are the same but for their hashes.
-/

set_option autoImplicit false

namespace Depot.Accounts

open Act

/-! ## Stored users behind the veil -/

namespace Users

variable (users : Users) (user : User)

theorem veiled_findById? (id : Uuid) :
    users.veiled.findById? id = (users.findById? id).map User.veiled :=
  List.find?_map

theorem veiled_findByUsername? (name : String) :
    users.veiled.findByUsername? name = (users.findByUsername? name).map User.veiled :=
  List.find?_map

theorem veiled_findByEmail? (email : String) :
    users.veiled.findByEmail? email = (users.findByEmail? email).map User.veiled :=
  List.find?_map

theorem veiled_page (number limit : Nat) :
    users.veiled.page number limit = (users.page number limit).map User.veiled := by
  simp [page, veiled]

theorem veiled_any_id (id : Uuid) :
    users.veiled.records.any (·.id = id) = users.records.any (·.id = id) := by
  rw [veiled, List.any_map]
  rfl

theorem veiled_insert :
    users.veiled.insert user.veiled = (users.insert user).map Users.veiled := by
  have id : user.veiled.id = user.id := rfl
  unfold insert
  rw [id, veiled_any_id]
  split
  · rfl
  · simp only [Except.map, veiled, List.map_append, List.map_cons, List.map_nil]
    rfl

theorem veiled_replaceFirst (records : List User) :
    replaceFirst user.veiled (records.map User.veiled) =
      (replaceFirst user records).map User.veiled := by
  induction records with
  | nil => rfl
  | cons first rest ih =>
    have ids : (first.veiled.id = user.veiled.id) = (first.id = user.id) := rfl
    rw [List.map_cons, replaceFirst, replaceFirst, ih]
    simp only [ids]
    split <;> rfl

theorem veiled_update :
    users.veiled.update user.veiled = (users.update user).map Users.veiled := by
  have id : user.veiled.id = user.id := rfl
  unfold update
  rw [id, veiled_any_id]
  split
  · simp only [Except.map, veiled]
    rw [← veiled_replaceFirst]
    rfl
  · rfl

theorem veiled_erase (id : Uuid) : users.veiled.erase id = (users.erase id).veiled := by
  rw [erase, erase, veiled, veiled, List.filter_map]
  rfl

end Users

/-- The same user, but for what the hash is. -/
def User.Alike (one other : User) : Prop := one.veiled = other.veiled

def FoundAlike (one other : Option User) : Prop := one.map User.veiled = other.map User.veiled

/-- Users that are alike, with the same events. -/
def MadeAlike (one other : User × List Event) : Prop := one.1.Alike other.1 ∧ one.2 = other.2

namespace User.Alike

variable {one other : User} (alike : one.Alike other)

include alike

theorem veiled : one.veiled = other.veiled := alike

theorem id : one.id = other.id := (congrArg User.id alike.veiled :)

omit alike in
theorem register {hash hash' : Option String} (same : veiledHash hash = veiledHash hash')
    {id correlation : Uuid} {name : Username} {email : String} {roles : List Role} {time : Instant} :
    (User.register id name email hash roles correlation time).Alike
      (User.register id name email hash' roles correlation time) :=
  congrArg (User.register id name email · roles correlation time) same

theorem uncommitted : one.uncommitted = other.uncommitted :=
  (congrArg User.uncommitted alike.veiled :)

theorem view : one.view = other.view :=
  (congrArg User.view alike.veiled :)

theorem detached : one.detached.Alike other.detached :=
  (congrArg User.detached alike.veiled :)

theorem markDeleted (correlation : Uuid) (time : Instant) :
    (one.markDeleted correlation time).Alike (other.markDeleted correlation time) :=
  (congrArg (·.markDeleted correlation time) alike.veiled :)

theorem rename (name : Username) (time : Instant) :
    (one.rename name time).Alike (other.rename name time) :=
  (congrArg (·.rename name time) alike.veiled :)

theorem changeEmail (email : String) (time : Instant) :
    (one.changeEmail email time).Alike (other.changeEmail email time) :=
  (congrArg (·.changeEmail email time) alike.veiled :)

theorem assignRoles (roles : List Role) (time : Instant) :
    (one.assignRoles roles time).Alike (other.assignRoles roles time) :=
  (congrArg (·.assignRoles roles time) alike.veiled :)

theorem changePasswordHash (hash hash' : String) (time : Instant) :
    (one.changePasswordHash hash time).Alike (other.changePasswordHash hash' time) :=
  (congrArg (·.changePasswordHash "" time) alike.veiled :)

end User.Alike

theorem FoundAlike.cases {one other : Option User} (alike : FoundAlike one other) :
    (one = none ∧ other = none) ∨ ∃ user user', one = some user ∧ other = some user' ∧
      user.Alike user' := by
  cases one with
  | none =>
    cases other with
    | none => exact .inl ⟨rfl, rfl⟩
    | some user => cases alike
  | some user =>
    cases other with
    | none => cases alike
    | some user' => exact .inr ⟨user, user', rfl, rfl, Option.some.inj alike⟩

theorem FoundAlike.isSome {one other : Option User} (alike : FoundAlike one other) :
    one.isSome = other.isSome := by
  rcases alike.cases with ⟨rfl, rfl⟩ | ⟨user, user', rfl, rfl, -⟩ <;> rfl

theorem foundAlike_findByUsername? {users others : Users} (same : users.veiled = others.veiled)
    (name : String) : FoundAlike (users.findByUsername? name) (others.findByUsername? name) := by
  rw [FoundAlike, ← Users.veiled_findByUsername?, ← Users.veiled_findByUsername?, same]

theorem foundAlike_findByEmail? {users others : Users} (same : users.veiled = others.veiled)
    (email : String) : FoundAlike (users.findByEmail? email) (others.findByEmail? email) := by
  rw [FoundAlike, ← Users.veiled_findByEmail?, ← Users.veiled_findByEmail?, same]

/-! ## Requests behind the veil -/

/-- Only whether a password is given, and whether it is empty, is left to see. -/
def veiledPassword (given : Option String) : Option String :=
  given.map fun password => if password.isEmpty then "" else "*"

def Registration.veiled (request : Registration) : Registration :=
  { request with password := veiledPassword request.password }

def Change.veiled (request : Change) : Change :=
  { request with password := veiledPassword request.password }

theorem isEmpty_of_veiled {password other : String}
    (same : veiledPassword (some password) = veiledPassword (some other)) :
    password.isEmpty = other.isEmpty := by
  have same : (if password.isEmpty then "" else "*") = if other.isEmpty then "" else "*" :=
    Option.some.inj same
  cases one : password.isEmpty <;> cases two : other.isEmpty <;> simp [one, two] at same ⊢

/-! ## Single calls -/

theorem alike_stored : Alike (fun one other => one.veiled = other.veiled) stored stored :=
  .bind .getThe fun _ _ alike => .pure alike.users

theorem alike_store {result other : Except Failure Users}
    (same : result.map Users.veiled = other.map Users.veiled) :
    Alike (· = ·) (store result) (store other) :=
  .bind (.ofExcept (ResultsAlike.of_map same)) fun _ _ users =>
    .modifyThe fun alike => alike.withUsers users

theorem alike_enqueue {ε : Type} (events : List Event) :
    Alike (· = ·) (enqueue events : Act ε Unit) (enqueue events) :=
  accountDesk_unveiled.turn (·.enqueue Event.record events)

theorem alike_markPending {ε : Type} {user other : User} (same : user.Alike other) :
    Alike User.Alike (markPending user : Act ε User) (markPending other) := by
  have pushed : Alike (· = ·)
      (accountDesk.turn (·.push user.id user.uncommitted) : Act ε Unit)
      (accountDesk.turn (·.push other.id other.uncommitted)) := by
    rw [same.id, same.uncommitted]
    exact accountDesk_unveiled.turn _
  exact .andThen pushed fun _ => .pure same.detached

theorem alike_refuseOther (id : Uuid) (what : String) {found other : Option User}
    (same : FoundAlike found other) :
    Alike (· = ·) (refuseOther id what found) (refuseOther id what other) := by
  rcases same.cases with ⟨rfl, rfl⟩ | ⟨user, user', rfl, rfl, users⟩
  · exact .pure rfl
  · unfold refuseOther
    dsimp only
    rw [users.id]
    split
    · exact .throw _
    · exact .pure rfl

section Calls

variable {first second : Env} (alike : first.Alike second)

include alike

theorem alike_answer {α : Type} {seen : α → α → Prop} (call : Call) {answer : Users → α}
    (blind : ∀ users others : Users, users.veiled = others.veiled →
      seen (answer users) (answer others)) :
    Alike seen (do first.callRecords call; return answer (← stored))
      (do second.callRecords call; return answer (← stored)) :=
  .andThen (alike.callRecords rfl) fun _ => .bind alike_stored fun users others same =>
    .pure (blind users others same)

theorem alike_userById (id : Uuid) : Alike FoundAlike (userById first id) (userById second id) := by
  apply alike_answer alike
  intro users others same
  rw [FoundAlike, ← Users.veiled_findById?, ← Users.veiled_findById?, same]

theorem alike_userByUsername (name : String) :
    Alike FoundAlike (userByUsername first name) (userByUsername second name) :=
  alike_answer alike _ fun _ _ same => foundAlike_findByUsername? same name

theorem alike_userByEmail (email : String) :
    Alike FoundAlike (userByEmail first email) (userByEmail second email) :=
  alike_answer alike _ fun _ _ same => foundAlike_findByEmail? same email

theorem alike_usersOnPage (page limit : Nat) :
    Alike (fun one other => one.map User.veiled = other.map User.veiled)
      (usersOnPage first page limit) (usersOnPage second page limit) := by
  apply alike_answer alike
  intro users others same
  rw [← Users.veiled_page, ← Users.veiled_page, same]

theorem alike_write {call other : Call} (calls : call.veiled = other.veiled)
    {change change' : Users → Except Failure Users}
    (changes : ∀ users others : Users, users.veiled = others.veiled →
      (change users).map Users.veiled = (change' others).map Users.veiled) :
    Alike (· = ·) (do first.callRecords call; store (change (← stored)))
      (do second.callRecords other; store (change' (← stored))) :=
  .andThen (alike.callRecords calls) fun _ => .bind alike_stored fun users others same =>
    alike_store (changes users others same)

theorem alike_createRecord {user other : User} (same : user.Alike other) :
    Alike (· = ·) (createRecord first user) (createRecord second other) := by
  have call : (Call.createUser user).veiled = (Call.createUser other).veiled :=
    congrArg Call.createUser same
  apply alike_write alike call
  intro users others stored
  rw [← Users.veiled_insert, ← Users.veiled_insert, stored, same.veiled]

theorem alike_updateRecord {user other : User} (same : user.Alike other) :
    Alike (· = ·) (updateRecord first user) (updateRecord second other) := by
  have call : (Call.updateUser user).veiled = (Call.updateUser other).veiled :=
    congrArg Call.updateUser same
  apply alike_write alike call
  intro users others stored
  rw [← Users.veiled_update, ← Users.veiled_update, stored, same.veiled]

theorem alike_deleteRecord (id : Uuid) :
    Alike (· = ·) (deleteRecord first id) (deleteRecord second id) := by
  refine .andThen (alike.callRecords rfl) fun _ => .bind alike_stored fun users others stored => ?_
  refine .andThen (alike_store ?_) fun _ => .pure ?_
  · exact congrArg Except.ok (by rw [← Users.veiled_erase, ← Users.veiled_erase, stored])
  · apply FoundAlike.isSome
    rw [FoundAlike, ← Users.veiled_findById?, ← Users.veiled_findById?, stored]

/-- Whatever the password and whatever the hasher makes of it. -/
theorem alike_hashed (password other : String) :
    Alike (fun _ _ => True) (hashed first password) (hashed second other) :=
  .bind (.note alike.outside.recordFault rfl) fun _ _ _ => .pure trivial

theorem alike_hashGiven {given other : Option String}
    (same : veiledPassword given = veiledPassword other) :
    Alike (fun hash hash' => veiledHash hash = veiledHash hash') (hashGiven first given)
      (hashGiven second other) := by
  cases given with
  | none =>
    cases other with
    | none => exact .pure rfl
    | some password => cases same
  | some password =>
    cases other with
    | none => cases same
    | some password' =>
      unfold hashGiven
      dsimp only
      rw [isEmpty_of_veiled same]
      split
      · exact .throw _
      · exact .map (alike_hashed alike _ _) fun _ _ _ => rfl

end Calls

/-! ## New accounts -/

section UseCases

variable {first second : Env} (alike : first.Alike second)

include alike

theorem alike_record {user other : User} (same : user.Alike other) :
    Alike MadeAlike (record first user) (record second other) :=
  .andThen (alike_createRecord alike same) fun _ => .pure ⟨same.detached, same.uncommitted⟩

theorem alike_register {request other : Registration} (same : request.veiled = other.veiled)
    (id : Uuid) : Alike MadeAlike (register first request id) (register second other id) := by
  obtain ⟨username, email, password, admin, correlation⟩ := request
  obtain ⟨username', email', password', admin', correlation'⟩ := other
  obtain ⟨rfl, rfl, passwords, rfl, rfl⟩ := Registration.mk.inj same
  unfold register
  dsimp only
  refine .andThen (.ofExcept (.refl _)) fun _ => .andThen (.ofExcept (.refl _)) fun name => ?_
  refine .bind (alike_userByEmail alike _) fun sameEmail sameEmail' emails => ?_
  refine .bind (alike_userByUsername alike _) fun sameName sameName' names => ?_
  rw [emails.isSome, names.isSome, alike.now]
  have recording : Alike MadeAlike
      (do
        let hash ← hashGiven first password
        record first (User.register id name (Text.trim email) hash (firstRoles admin) correlation
          second.now))
      (do
        let hash ← hashGiven second password'
        record second (User.register id name (Text.trim email) hash (firstRoles admin) correlation
          second.now)) :=
    .bind (alike_hashGiven alike passwords) fun _ _ hashes => alike_record alike (.register hashes)
  split
  · exact .andThen (.throw _) fun _ => recording
  · exact recording

theorem alike_freeName (name : String) (ending : List Nat) :
    Alike (· = ·) (freeName first name ending) (freeName second name ending) := by
  refine .andThen (.ofExcept (.refl _)) fun username => ?_
  refine .bind (alike_userByUsername alike _) fun taken taken' same => ?_
  rcases same.cases with ⟨rfl, rfl⟩ | ⟨user, user', rfl, rfl, -⟩
  · exact .pure rfl
  · dsimp only
    cases uniqueName username.text ending with
    | ok other => exact .pure rfl
    | error fault => exact .throw _

theorem alike_provision (request : Provision) (id : Uuid) (ending : List Nat) :
    Alike MadeAlike (provision first request id ending) (provision second request id ending) := by
  unfold provision
  rw [alike.now]
  refine .andThen (.ofExcept (.refl _)) fun _ => ?_
  refine .bind (alike_userByEmail alike _) fun known known' same => ?_
  rcases same.cases with ⟨rfl, rfl⟩ | ⟨user, user', rfl, rfl, users⟩
  · exact .andThen (alike_freeName alike _ _) fun _ => alike_record alike (.register rfl)
  · exact .pure ⟨users, rfl⟩

/-! ## Changes -/

theorem alike_applyKey {α : Type} (key : Key α) {user other : User} (same : user.Alike other)
    (given : Option String)
    (holders : ∀ value (users others : Users), users.veiled = others.veiled →
      FoundAlike (key.holder? value users) (key.holder? value others))
    (sets : ∀ value now, (key.set value now user).Alike (key.set value now other)) :
    Alike User.Alike (key.apply first user given) (key.apply second other given) := by
  cases given with
  | none => exact .pure same
  | some text =>
    unfold Key.apply
    dsimp only
    rw [alike.now, same.id]
    exact .andThen (.ofExcept (.refl _)) fun value =>
      .bind (alike_answer alike (key.call value) (holders value)) fun _ _ found =>
        .andThen (alike_refuseOther _ _ found) fun _ => .pure (sets value _)

theorem alike_applyUsername {user other : User} (same : user.Alike other) (given : Option String) :
    Alike User.Alike (applyUsername first user given) (applyUsername second other given) := by
  rw [applyUsername_eq, applyUsername_eq]
  exact alike_applyKey alike Key.username same given
    (fun name _ _ users => foundAlike_findByUsername? users name.text) fun name now =>
      same.rename name now

theorem alike_applyEmail {user other : User} (same : user.Alike other) (given : Option String) :
    Alike User.Alike (applyEmail first user given) (applyEmail second other given) := by
  rw [applyEmail_eq, applyEmail_eq]
  exact alike_applyKey alike Key.email same given
    (fun email _ _ users => foundAlike_findByEmail? users email) fun email now =>
      same.changeEmail email now

theorem alike_applyPassword {user other : User} (same : user.Alike other)
    {given given' : Option String} (passwords : veiledPassword given = veiledPassword given') :
    Alike User.Alike (applyPassword first user given) (applyPassword second other given') := by
  refine .bind (alike_hashGiven alike passwords) fun hash hash' hashes => ?_
  rw [alike.now]
  cases hash with
  | none =>
    cases hash' with
    | none => exact .pure same
    | some hash' => cases hashes
  | some hash =>
    cases hash' with
    | none => cases hashes
    | some hash' => exact .pure (same.changePasswordHash hash hash' _)

theorem alike_applyRoles {user other : User} (same : user.Alike other)
    (given : Option (List Role)) :
    Alike User.Alike (applyRoles first user given) (applyRoles second other given) := by
  cases given with
  | none => exact .pure same
  | some roles =>
    unfold applyRoles
    dsimp only
    rw [alike.now]
    split
    · exact .throw _
    · exact .pure (same.assignRoles _ _)

theorem alike_change {request other : Change} (requests : request.veiled = other.veiled) :
    Alike User.Alike (change first request) (change second other) := by
  obtain ⟨id, username, email, password, roles⟩ := request
  obtain ⟨id', username', email', password', roles'⟩ := other
  obtain ⟨rfl, rfl, rfl, passwords, rfl⟩ := Change.mk.inj requests
  refine .bind (alike_userById alike _) fun found found' users => ?_
  rcases users.cases with ⟨rfl, rfl⟩ | ⟨user, user', rfl, rfl, same⟩
  · exact .throw _
  · refine .bind (alike_applyUsername alike same _) fun _ _ renamed => ?_
    refine .bind (alike_applyEmail alike renamed _) fun _ _ reached => ?_
    refine .bind (alike_applyPassword alike reached passwords) fun _ _ hashed => ?_
    refine .bind (alike_applyRoles alike hashed _) fun _ _ made => ?_
    exact .andThen (alike_updateRecord alike made) fun _ => .pure made

/-! ## Deleting and looking -/

theorem alike_handle (handler : AccountHandler) (event : Event) :
    Alike (· = ·) (handle first handler event) (handle second handler event) := by
  cases handler with
  | recorder name => exact alike.callRecords rfl
  | refuser failure => exact .throw failure
  | fileRemover policy =>
    unfold handle
    cases event.payload with
    | userCreated => exact .pure rfl
    | userDeleted user =>
      exact .andThen (.mapFailure _ (Files.alike_removeOfUser alike policy user)) fun _ => .pure rfl

theorem alike_dispatch (id : Uuid) : Alike (· = ·) (dispatch first id) (dispatch second id) :=
  accountDesk_unveiled.dispatch (alike_handle alike) id

theorem alike_delete (id correlation : Uuid) :
    Alike User.Alike (delete first id correlation) (delete second id correlation) := by
  unfold delete
  rw [alike.now]
  refine .bind (alike_userById alike id) fun found found' users => ?_
  rcases users.cases with ⟨rfl, rfl⟩ | ⟨user, user', rfl, rfl, same⟩
  · exact .throw _
  · refine .bind (alike_markPending (same.markDeleted _ _)) fun marked marked' marks => ?_
    rw [marks.id]
    exact .andThen (alike_dispatch alike _) fun _ => .andThen (alike_deleteRecord alike _)
      fun _ => .pure marks

theorem alike_lookUp (id : Uuid) :
    Alike User.Alike (lookUp first id) (lookUp second id) := by
  refine .bind (alike_userById alike id) fun found found' users => ?_
  rcases users.cases with ⟨rfl, rfl⟩ | ⟨user, user', rfl, rfl, same⟩
  · exact .throw _
  · exact .pure same

theorem alike_list (page limit : Nat) :
    Alike (fun one other => one.map User.veiled = other.map User.veiled)
      (list first page limit) (list second page limit) :=
  alike_usersOnPage alike _ _

end UseCases

end Depot.Accounts
