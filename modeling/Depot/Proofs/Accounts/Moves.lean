import Depot.Accounts.Change
import Depot.Accounts.Listing
import Depot.Proofs.Files.Filing

/-!
# The moves of work on accounts

Work on accounts asks, changes the stored users, hands over events and tells of them.  A
frame that admits these moves is kept by every use case.  Parts that only ask are told
apart, since they are kept by every frame that admits calls that look.
-/

set_option autoImplicit false

namespace Depot

/-- The frame admits the moves of the stored users, which carry no events unless some did. -/
structure Frame.AdmitsAccounts (frame : Frame) : Prop where
  note : ∀ state call, call.service?.isSome → call.stores = false →
    frame.Allows state (state.noted call)
  change : ∀ state users, ((∀ user ∈ state.users.records, user.uncommitted = []) →
    ∀ user ∈ users.records, user.uncommitted = []) → frame.Allows state { state with users }

namespace Accounts

open Act

/-! ## Keys

A name and an email are changed in the same way: the value that a text gives is asked for, and it is
set if nobody else has it.
-/

/-- A field that a user shares with nobody: the value that a text gives, the call that asks who has
it, and how it is set. -/
structure Key (α : Type) where
  read : String → Except Failure α
  call : α → Call
  looks : ∀ value, (call value).looks = true
  goes : ∀ value, (call value).service? = some "users"
  holder? : α → Users → Option User
  taken : String
  set : α → Instant → User → User

/-- Sets a key that is given, unless somebody else has it. -/
def Key.apply {α : Type} (key : Key α) (env : Env) (user : User) : Option String → Act Failure User
  | none => pure user
  | some given => do
    let value ← Act.ofExcept (key.read given)
    let holder ← (do env.callRecords (key.call value); return key.holder? value (← stored))
    refuseOther user.id key.taken holder
    return key.set value env.now user

def Key.username : Key Username where
  read := nameOf
  call name := .findUserByUsername name.text
  looks _ := rfl
  goes _ := rfl
  holder? name users := users.findByUsername? name.text
  taken := "username already taken"
  set name now user := user.rename name now

def Key.email : Key String where
  read given := (checkEmail given).map fun _ => Text.trim given
  call email := .findUserByEmail email
  looks _ := rfl
  goes _ := rfl
  holder? email users := users.findByEmail? email
  taken := "email already taken"
  set email now user := user.changeEmail email now

theorem applyUsername_eq (env : Env) (user : User) (given : Option String) :
    applyUsername env user given = Key.username.apply env user given := by
  cases given with
  | none => rfl
  | some text => simp only [applyUsername, userByUsername, Key.apply, Key.username]

theorem applyEmail_eq (env : Env) (user : User) (given : Option String) :
    applyEmail env user given = Key.email.apply env user given := by
  cases given with
  | none => rfl
  | some text =>
    simp only [applyEmail, userByEmail, Key.apply, Key.email]
    cases checkEmail text with
    | error failure => rfl
    | ok valid => simp only [Except.map]; rfl

section Asking

variable (env : Env)

/-! ## Asking -/

theorem keeps_stored : stored.Keeps .looking := .bind .getThe fun _ => .pure _

theorem keeps_userById (id : Uuid) : (userById env id).Keeps .looking :=
  keeps_question env rfl keeps_stored (·.findById? id)

theorem keeps_userByUsername (name : String) : (userByUsername env name).Keeps .looking :=
  keeps_question env rfl keeps_stored (·.findByUsername? name)

theorem keeps_userByEmail (email : String) : (userByEmail env email).Keeps .looking :=
  keeps_question env rfl keeps_stored (·.findByEmail? email)

theorem keeps_usersOnPage (page limit : Nat) : (usersOnPage env page limit).Keeps .looking :=
  keeps_question env rfl keeps_stored (·.page page limit)

theorem keeps_hashed (password : String) : (hashed env password).Keeps .looking :=
  .bind (.noteLooking rfl) fun _ => .pure _

theorem runOn_storeChanged (change : Users → Except Failure Users) (state : State) :
    (do store (change (← stored)) : Act Failure Unit).runOn state =
      match change state.users with
      | .error failure => (.error failure, state)
      | .ok users => (.ok (), { state with users }) := by
  have read : stored.runOn state = (.ok state.users, state) := rfl
  rw [runOn_bind_ok read, store, runOn_bind, runOn_ofExcept]
  cases change state.users <;> rfl

theorem keeps_hashGiven (given : Option String) : (hashGiven env given).Keeps .looking := by
  cases given with
  | none => exact .pure _
  | some password =>
    rw [hashGiven]
    split
    · exact .throw _
    · exact .map _ (keeps_hashed env password)

theorem keeps_freeName (displayName : String) (draws : List Nat) :
    (freeName env displayName draws).Keeps .looking := by
  refine .bind (.ofExcept _) fun username =>
    .bind (keeps_userByUsername env _) fun taken => ?_
  cases taken with
  | none => exact .pure _
  | some other =>
    dsimp only
    cases uniqueName username.text draws with
    | ok unique => exact .pure _
    | error fault => exact .throw _

theorem keeps_refuseOther (id : Uuid) (what : String) (found : Option User) :
    (refuseOther id what found).Keeps .looking := by
  cases found with
  | none => exact .pure _
  | some other =>
    rw [refuseOther]
    split
    · exact .throw _
    · exact .pure _

theorem Key.keeps_apply {α : Type} (key : Key α) (user : User) (given : Option String) :
    (key.apply env user given).Keeps .looking := by
  cases given with
  | none => exact .pure _
  | some text =>
    exact .bind (.ofExcept _) fun value => .bind (keeps_question env (key.looks value) keeps_stored _) fun _ =>
      .bind (keeps_refuseOther _ _ _) fun _ => .pure _

theorem keeps_applyUsername (user : User) (given : Option String) :
    (applyUsername env user given).Keeps .looking :=
  applyUsername_eq env user given ▸ Key.username.keeps_apply env user given

theorem keeps_applyEmail (user : User) (given : Option String) :
    (applyEmail env user given).Keeps .looking :=
  applyEmail_eq env user given ▸ Key.email.keeps_apply env user given

theorem keeps_applyPassword (user : User) (given : Option String) :
    (applyPassword env user given).Keeps .looking := by
  refine .bind (keeps_hashGiven env given) fun hash => ?_
  cases hash <;> exact .pure _

theorem keeps_applyRoles (user : User) (given : Option (List Role)) :
    (applyRoles env user given).Keeps .looking := by
  cases given with
  | none => exact .pure _
  | some roles =>
    rw [applyRoles]
    split
    · exact .throw _
    · exact .pure _

theorem keeps_lookUp (id : Uuid) : (lookUp env id).Keeps .looking := by
  refine .bind (keeps_userById env id) fun found => ?_
  cases found with
  | none => exact .throw _
  | some user => exact .pure _

end Asking

/-! ## Changing the stored users -/

theorem insert_ok {users later : Users} {user : User} (inserted : users.insert user = .ok later) :
    (∀ other ∈ users.records, other.id ≠ user.id) ∧
      later = ⟨users.records ++ [user.detached]⟩ := by
  unfold Users.insert at inserted
  split_ifs at inserted with taken
  rw [Except.ok.injEq] at inserted
  exact ⟨by simpa using taken, inserted.symm⟩

theorem insert_detached {users later : Users} {user : User}
    (inserted : users.insert user = .ok later)
    (detached : ∀ other ∈ users.records, other.uncommitted = []) :
    ∀ other ∈ later.records, other.uncommitted = [] := by
  rw [(insert_ok inserted).2]
  intro other member
  rcases List.mem_append.1 member with present | last
  · exact detached other present
  · rw [List.mem_singleton.1 last]
    rfl

theorem mem_replaceFirst {user other : User} {records : List User}
    (member : other ∈ Users.replaceFirst user records) : other = user ∨ other ∈ records := by
  induction records with
  | nil => cases member
  | cons first rest ih =>
    rw [Users.replaceFirst] at member
    split at member
    · exact (List.mem_cons.1 member).imp_right (.tail _)
    · rcases List.mem_cons.1 member with rfl | later
      · exact .inr (.head _)
      · exact (ih later).imp_right (.tail _)

theorem update_ok {users later : Users} {user : User} (updated : users.update user = .ok later) :
    later = ⟨Users.replaceFirst user.detached users.records⟩ := by
  unfold Users.update at updated
  split_ifs at updated
  exact (Except.ok.inj updated).symm

theorem update_detached {users later : Users} {user : User}
    (updated : users.update user = .ok later)
    (detached : ∀ other ∈ users.records, other.uncommitted = []) :
    ∀ other ∈ later.records, other.uncommitted = [] := by
  rw [update_ok updated]
  intro other member
  rcases mem_replaceFirst member with rfl | present
  · rfl
  · exact detached other present

section Calls

variable (env : Env)

theorem runOn_userById (state : State) (id : Uuid) :
    (userById env id).runOn state =
      (match env.outside.recordFault (.findUserById id :: state.calls) with
        | some failure => .error failure
        | none => .ok (state.users.findById? id),
      state.noted (.findUserById id)) := by
  rw [userById, runOn_bind, runOn_callRecords]
  cases env.outside.recordFault (.findUserById id :: state.calls) <;> rfl

theorem runOn_deleteRecord (id : Uuid) (state : State) :
    (deleteRecord env id).runOn state =
      match env.outside.recordFault (.deleteUser id :: state.calls) with
      | some failure => (.error failure, state.noted (.deleteUser id))
      | none => (.ok (state.users.findById? id).isSome,
          { state.noted (.deleteUser id) with users := state.users.erase id }) := by
  rw [deleteRecord, runOn_bind, runOn_callRecords]
  cases env.outside.recordFault (.deleteUser id :: state.calls) <;> rfl

end Calls

variable {frame : Frame} {env : Env}

section Changes

variable (admits : frame.AdmitsAccounts)

include admits

theorem kept_looking {ε α : Type} {act : Act ε α} (looks : act.Keeps .looking) :
    act.Keeps frame :=
  .of_looking (fun state call looked =>
    admits.note state call (Call.isSome_service? looked) (Call.not_stores_of_looks looked)) looks

theorem kept_write {call : Call} {change : Users → Except Failure Users}
    (goes : call.service?.isSome) (spares : call.stores = false)
    (detached : ∀ users later, change users = .ok later →
      (∀ user ∈ users.records, user.uncommitted = []) →
        ∀ user ∈ later.records, user.uncommitted = []) :
    (do env.callRecords call; store (change (← stored)) : Act Failure Unit).Keeps frame := by
  intro state
  have asked := admits.note state call goes spares
  rw [runOn_bind, runOn_callRecords]
  cases env.outside.recordFault (call :: state.calls) with
  | some failure => exact asked
  | none =>
    dsimp only
    rw [runOn_storeChanged]
    cases changed : change (state.noted call).users with
    | error failure => exact asked
    | ok later => exact frame.chain asked (admits.change _ later (detached _ later changed))

theorem kept_createRecord (user : User) : (createRecord env user).Keeps frame :=
  kept_write admits rfl rfl fun _ _ => insert_detached

theorem kept_updateRecord (user : User) : (updateRecord env user).Keeps frame :=
  kept_write admits rfl rfl fun _ _ => update_detached

theorem kept_deleteRecord (id : Uuid) : (deleteRecord env id).Keeps frame := by
  intro state
  have asked := admits.note state (.deleteUser id) rfl rfl
  rw [runOn_deleteRecord]
  cases env.outside.recordFault (.deleteUser id :: state.calls) with
  | some failure => exact asked
  | none =>
    refine frame.chain asked (admits.change _ _ fun detached user member => ?_)
    exact detached user (List.mem_filter.1 member).1

theorem kept_record (user : User) : (record env user).Keeps frame :=
  .bind (kept_createRecord admits user) fun _ => .pure _

theorem kept_register (request : Registration) (id : Uuid) :
    (register env request id).Keeps frame := by
  refine .bind (.ofExcept _) fun _ => .bind (.ofExcept _) fun username =>
    .bind (kept_looking admits (keeps_userByEmail env _)) fun sameEmail =>
      .bind (kept_looking admits (keeps_userByUsername env _)) fun sameName => ?_
  have recording : Act.Keeps frame (do
      let passwordHash ← hashGiven env request.password
      record env (User.register id username (Text.trim request.email) passwordHash
        (firstRoles request.admin) request.correlation env.now)) :=
    .bind (kept_looking admits (keeps_hashGiven env _)) fun _ => kept_record admits _
  split
  · exact .bind (.throw _) fun _ => recording
  · exact recording

theorem kept_provision (request : Provision) (id : Uuid) (draws : List Nat) :
    (provision env request id draws).Keeps frame := by
  refine .bind (.ofExcept _) fun _ =>
    .bind (kept_looking admits (keeps_userByEmail env _)) fun found => ?_
  cases found with
  | some user => exact .pure _
  | none =>
    exact .bind (kept_looking admits (keeps_freeName env _ _)) fun _ => kept_record admits _

theorem kept_change (request : Change) : (change env request).Keeps frame := by
  refine .bind (kept_looking admits (keeps_userById env _)) fun found => ?_
  cases found with
  | none => exact .throw _
  | some user =>
    exact .bind (kept_looking admits (keeps_applyUsername env _ _)) fun _ =>
      .bind (kept_looking admits (keeps_applyEmail env _ _)) fun _ =>
        .bind (kept_looking admits (keeps_applyPassword env _ _)) fun _ =>
          .bind (kept_looking admits (keeps_applyRoles env _ _)) fun _ =>
            .bind (kept_updateRecord admits _) fun _ => .pure _

end Changes

/-! ## Telling of events -/

section Events

variable {recorded : Files.File → Prop}

theorem kept_handle (files : frame.AdmitsFiles recorded)
    (tells : ∀ state name event, frame.Allows state (state.noted (.handledAccount name event)))
    (handler : AccountHandler) (event : Event) : (handle env handler event).Keeps frame := by
  cases handler with
  | recorder name => exact .bind (.noting fun state => tells state name event) fun _ => .pure _
  | refuser failure => exact .throw _
  | fileRemover policy =>
    rw [handle]
    cases event.payload with
    | userCreated user name email => exact .pure _
    | userDeleted user =>
      exact .bind (.mapFailure _ (Files.kept_removeOfUser files policy user)) fun _ => .pure _

variable (events : frame.AdmitsAccountEvents)

include events

theorem kept_enqueue {ε : Type} (more : List Event) : (enqueue more : Act ε Unit).Keeps frame :=
  events.keeps_turn fun _ => Dispatcher.enqueue_handlers _ _ _

theorem kept_markPending {ε : Type} (user : User) :
    (markPending user : Act ε User).Keeps frame :=
  .bind (events.keeps_turn fun _ => Dispatcher.push_handlers _ _ _) fun _ => .pure _

variable (files : frame.AdmitsFiles recorded)

include files

theorem kept_dispatch (id : Uuid) : (dispatch env id).Keeps frame :=
  events.keeps_dispatch (kept_handle files events.tell) id

theorem kept_delete (admits : frame.AdmitsAccounts) (id correlation : Uuid) :
    (delete env id correlation).Keeps frame := by
  refine .bind (kept_looking admits (keeps_userById env id)) fun found => ?_
  cases found with
  | none => exact .throw _
  | some user =>
    exact .bind (kept_markPending events _) fun _ => .bind (kept_dispatch events files _) fun _ =>
      .bind (kept_deleteRecord admits _) fun _ => .pure _

end Events

end Accounts

end Depot
