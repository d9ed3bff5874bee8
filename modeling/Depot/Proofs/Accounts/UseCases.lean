import Depot.Proofs.Accounts.Moves
import Depot.Proofs.Accounts.Slug

/-!
# What each use case of accounts does

A registration, a provision or a change fails and leaves the stored users as they are, or it is
carried out.  What is then known of the request, of the answers it was given and of the users that
are left is said here once for each of the three, for any faults and any hasher.
-/

set_option autoImplicit false

namespace Depot.Accounts

open Act

variable {env : Env} {state after : State}

/-! ## Answers and writes -/

theorem users_of_run {ε α : Type} {act : Act ε α} (looks : act.Keeps .looking)
    {result : Except ε α} (ran : act.runOn state = (result, after)) :
    after.users = state.users := by
  obtain ⟨added, rfl, -⟩ := looks.allows ran
  rfl

theorem ofExcept_ok {ε α : Type} {result : Except ε α} {value : α}
    (ran : (Act.ofExcept result).runOn state = (.ok value, after)) :
    result = .ok value ∧ after = state := by
  rw [runOn_ofExcept, Prod.mk.injEq] at ran
  exact ⟨ran.1, ran.2.symm⟩

/-- A write is refused and changes nothing, or the changed users are stored. -/
theorem write_cases {call : Call} {change : Users → Except Failure Users}
    {result : Except Failure Unit}
    (ran : (do env.callRecords call; store (change (← stored)) : Act Failure Unit).runOn state =
      (result, after)) :
    (∃ failure, result = .error failure ∧ after.users = state.users) ∨
      result = .ok () ∧ change state.users = .ok after.users ∧
        after.calls = call :: state.calls := by
  rw [runOn_bind, runOn_callRecords] at ran
  cases fault : env.outside.recordFault (call :: state.calls) with
  | some failure =>
    rw [fault, Prod.mk.injEq] at ran
    obtain ⟨rfl, rfl⟩ := ran
    exact .inl ⟨failure, rfl, rfl⟩
  | none =>
    rw [fault] at ran
    dsimp only at ran
    have users : (state.noted call).users = state.users := rfl
    rw [runOn_storeChanged, users] at ran
    cases changed : change state.users with
    | error failure =>
      rw [changed, Prod.mk.injEq] at ran
      obtain ⟨rfl, rfl⟩ := ran
      exact .inl ⟨failure, rfl, rfl⟩
    | ok later =>
      rw [changed, Prod.mk.injEq] at ran
      obtain ⟨rfl, rfl⟩ := ran
      exact .inr ⟨rfl, rfl, rfl⟩

theorem answer_ok {α : Type} {call : Call} {answer : Users → α} {value : α}
    (ran : (do env.callRecords call; return answer (← stored) : Act Failure α).runOn state =
      (.ok value, after)) : value = answer state.users := by
  rw [runOn_bind, runOn_callRecords] at ran
  cases fault : env.outside.recordFault (call :: state.calls) with
  | some failure => simp [fault] at ran
  | none =>
    rw [fault] at ran
    exact (Except.ok.inj (congrArg Prod.fst ran)).symm

theorem bind_asking {α β : Type} {users : Users} {ended : Except Failure β × State → Prop}
    (refused : ∀ failure after, after.users = users → ended (.error failure, after))
    (same : state.users = users) {act : Act Failure α} (asks : act.Keeps .looking)
    {next : α → Act Failure β}
    (goes : ∀ value middle, act.runOn state = (.ok value, middle) → middle.users = users →
      ended ((next value).runOn middle)) :
    ended ((act >>= next).runOn state) := by
  refine bind_cases (fun failure middle ran => ?_) fun value middle ran => ?_
  · exact refused failure middle ((users_of_run asks ran).trans same)
  · exact goes value middle ran ((users_of_run asks ran).trans same)

theorem bind_writing {β : Type} {users : Users} {ended : Except Failure β × State → Prop}
    (refused : ∀ failure after, after.users = users → ended (.error failure, after))
    (same : state.users = users) {call : Call} {change : Users → Except Failure Users}
    {next : Unit → Act Failure β}
    (goes : ∀ middle, change users = .ok middle.users → middle.calls = call :: state.calls →
      ended ((next ()).runOn middle)) :
    ended (((do env.callRecords call; store (change (← stored)) : Act Failure Unit) >>= next).runOn
      state) := by
  refine bind_cases (fun failure middle ran => ?_) fun _ middle ran => ?_
  · rcases write_cases ran with ⟨_, -, kept⟩ | ⟨bad, -⟩
    · exact refused failure middle (kept.trans same)
    · cases bad
  · rcases write_cases ran with ⟨_, bad, -⟩ | ⟨-, changed, called⟩
    · cases bad
    · exact goes middle (same ▸ changed) called

/-- A failure leaves the users as they were, and a success as it is told. -/
inductive AllOrNothing {α : Type} (users : Users) (told : α → State → Prop) :
    Except Failure α × State → Prop
  | refused {failure : Failure} {after : State} (same : after.users = users) :
    AllOrNothing users told (.error failure, after)
  | done {value : α} {after : State} (tells : told value after) :
    AllOrNothing users told (.ok value, after)

theorem AllOrNothing.imp {α : Type} {users : Users} {told other : α → State → Prop}
    {ended : Except Failure α × State} (ends : AllOrNothing users told ended)
    (weaker : ∀ value after, told value after → other value after) :
    AllOrNothing users other ended := by
  cases ends with
  | refused same => exact .refused same
  | done tells => exact .done (weaker _ _ tells)

theorem AllOrNothing.of_ok {α : Type} {users : Users} {told : α → State → Prop}
    {ended : Except Failure α × State} (ends : AllOrNothing users told ended) {value : α}
    (ran : ended = (.ok value, after)) : told value after := by
  subst ran
  cases ends with
  | done tells => exact tells

theorem AllOrNothing.of_error {α : Type} {users : Users} {told : α → State → Prop}
    {ended : Except Failure α × State} (ends : AllOrNothing users told ended) {failure : Failure}
    (ran : ended = (.error failure, after)) : after.users = users := by
  subst ran
  cases ends with
  | refused same => exact same

/-! ## Hashes -/

/-- A hash that was made of a password between two points, by the call for it. -/
inductive HashMade (env : Env) (before after : List Call) (password : String) : String → Prop
  | made {earlier : List Call} (filled : password ≠ "") (since : before <:+ earlier)
    (called : .hashPassword password :: earlier <:+ after)
    (answered : env.outside.recordFault (.hashPassword password :: earlier) = none) :
    HashMade env before after password
      (env.outside.hash (.hashPassword password :: earlier) password)

theorem HashMade.widen {first before after last : List Call} {given hash : Option String}
    (made : Option.Rel (HashMade env before after) given hash) (early : first <:+ before)
    (late : after <:+ last) : Option.Rel (HashMade env first last) given hash := by
  cases made with
  | none => exact .none
  | some made =>
    cases made with
    | made filled since called answered =>
      exact .some (.made filled (early.trans since) (called.trans late) answered)

theorem hashGiven_made {given hash : Option String}
    (ran : (hashGiven env given).runOn state = (.ok hash, after)) :
    Option.Rel (HashMade env state.calls after.calls) given hash := by
  cases given with
  | none =>
    obtain rfl : none = hash := Except.ok.inj (congrArg Prod.fst ran)
    exact .none
  | some password =>
    rw [hashGiven] at ran
    split_ifs at ran with empty
    · cases ran
    · unfold hashed at ran
      rw [runOn_map, runOn_bind, runOn_note] at ran
      cases fault : env.outside.recordFault (.hashPassword password :: state.calls) with
      | some failure =>
        rw [fault] at ran
        cases ran
      | none =>
        rw [fault] at ran
        obtain rfl := congrArg Prod.snd ran
        obtain rfl := Except.ok.inj (congrArg Prod.fst ran)
        exact .some (.made (by simpa using empty) List.suffix_rfl List.suffix_rfl fault)

/-! ## New accounts -/

theorem nameOf_eq_ok_iff {text : String} {name : Username} :
    nameOf text = .ok name ↔ Username.parse text = .ok name := by
  rw [nameOf]
  cases Username.parse text <;> simp

theorem isEmail_of_check {given : String} (checked : checkEmail given = .ok ()) :
    isEmail given = true := by
  unfold checkEmail at checked
  split_ifs at checked with email
  exact email

theorem checkEmail_map_ok {given email : String}
    (read : (checkEmail given).map (fun _ => Text.trim given) = .ok email) :
    isEmail given = true ∧ Text.trim given = email := by
  cases checked : checkEmail given with
  | error failure =>
    rw [checked] at read
    cases read
  | ok valid =>
    rw [checked] at read
    exact ⟨isEmail_of_check checked, Except.ok.inj read⟩

/-- A new user is stored behind the others, and its events are given away. -/
structure Recorded (users : Users) (user : User) (value : User × List Event) (after : State) :
    Prop where
  newId : ∀ other ∈ users.records, other.id ≠ user.id
  value : value = (user.detached, user.uncommitted)
  later : after.users = ⟨users.records ++ [user.detached]⟩

theorem record_told {users : Users} (same : state.users = users) (user : User) :
    AllOrNothing users (fun value after =>
      Recorded users user value after ∧ state.calls <:+ after.calls)
      ((record env user).runOn state) := by
  refine bind_writing (fun _ _ => .refused) same fun middle inserted called => ?_
  obtain ⟨newId, later⟩ := insert_ok inserted
  exact .done ⟨⟨newId, rfl, later⟩, called ▸ List.suffix_cons _ _⟩

/-- A registration has been carried out: an unknown email and a free name were given, and the
password, if there was one, has been hashed. -/
structure Registered (env : Env) (state : State) (request : Registration) (id : Uuid)
    (name : Username) (hash : Option String) (value : User × List Event) (after : State) :
    Prop where
  isEmail : isEmail request.email = true
  read : nameOf request.username = .ok name
  newEmail : state.users.findByEmail? (Text.trim request.email) = none
  newName : state.users.findByUsername? name.text = none
  made : Option.Rel (HashMade env state.calls after.calls) request.password hash
  recorded : Recorded state.users (User.register id name (Text.trim request.email) hash
    (firstRoles request.admin) request.correlation env.now) value after

theorem register_told (env : Env) (request : Registration) (id : Uuid) (state : State) :
    AllOrNothing state.users
      (fun value after => ∃ name hash, Registered env state request id name hash value after)
      ((register env request id).runOn state) := by
  unfold register
  refine bind_asking (fun _ _ => .refused) rfl (.ofExcept _) fun _ first checking kept => ?_
  obtain ⟨checked, rfl⟩ := ofExcept_ok checking
  refine bind_asking (fun _ _ => .refused) kept (.ofExcept _) fun name second naming kept => ?_
  obtain ⟨read, rfl⟩ := ofExcept_ok naming
  refine bind_asking (fun _ _ => .refused) kept (keeps_userByEmail env _)
    fun sameEmail third askedEmail stays => ?_
  refine bind_asking (fun _ _ => .refused) stays (keeps_userByUsername env _)
    fun sameName fourth askedName kept => ?_
  have newEmail := answer_ok askedEmail
  have newName := answer_ok askedName
  rw [stays] at newName
  split_ifs with taken
  · exact .refused kept
  rw [Bool.or_eq_true, not_or, Bool.not_eq_true, Bool.not_eq_true, Option.isSome_eq_false_iff,
    Option.isSome_eq_false_iff, Option.isNone_iff_eq_none, Option.isNone_iff_eq_none] at taken
  obtain ⟨rfl, rfl⟩ := taken
  refine bind_asking (fun _ _ => .refused) kept (keeps_hashGiven env _)
    fun hash fifth hashing kept => ?_
  refine (record_told kept _).imp fun value after recorded => ?_
  have since := ((keeps_userByEmail env _).called askedEmail).trans
    ((keeps_userByUsername env _).called askedName)
  exact ⟨name, hash, isEmail_of_check checked, read, newEmail.symm, newName.symm,
    HashMade.widen (hashGiven_made hashing) since recorded.2, recorded.1⟩

/-- How a provisioned account is named: by the text asked for, or by draws if that is taken. -/
inductive Named (users : Users) (text : String) (draws : List Nat) : Username → Prop
  | own {name : Username} (read : nameOf text = .ok name)
    (free : users.findByUsername? name.text = none) : Named users text draws name
  | drawn {name unique : Username} (read : nameOf text = .ok name)
    (taken : (users.findByUsername? name.text).isSome)
    (made : uniqueName name.text draws = .ok unique) : Named users text draws unique

theorem freeName_ok {text : String} {draws : List Nat} {name : Username}
    (ran : (freeName env text draws).runOn state = (.ok name, after)) :
    Named state.users text draws name := by
  obtain ⟨own, first, naming, rest⟩ := of_bind_ok ran
  obtain ⟨read, rfl⟩ := ofExcept_ok naming
  obtain ⟨found, second, asked, rest⟩ := of_bind_ok rest
  have answer := answer_ok asked
  cases found with
  | none =>
    obtain rfl : own = name := by simpa using congrArg Prod.fst rest
    exact .own read answer.symm
  | some other =>
    dsimp only at rest
    cases made : uniqueName own.text draws with
    | error fault => simp [made] at rest
    | ok unique =>
      rw [made] at rest
      obtain rfl : unique = name := by simpa using congrArg Prod.fst rest
      exact .drawn read (by rw [← answer]; rfl) made

/-- A provision has been carried out: there is an account of the email, or one has been made. -/
inductive Provisions (env : Env) (state : State) (request : Provision) (id : Uuid)
    (draws : List Nat) : User × List Event → State → Prop
  | found {user : User} {after : State} (isEmail : isEmail request.email = true)
    (known : state.users.findByEmail? (Text.trim request.email) = some user)
    (same : after.users = state.users) : Provisions env state request id draws (user, []) after
  | made {name : Username} {value : User × List Event} {after : State}
    (isEmail : isEmail request.email = true)
    (newEmail : state.users.findByEmail? (Text.trim request.email) = none)
    (named : Named state.users request.displayName draws name)
    (recorded : Recorded state.users (User.register id name (Text.trim request.email) none [.user]
      request.correlation env.now) value after) :
    Provisions env state request id draws value after

theorem provision_told (env : Env) (request : Provision) (id : Uuid) (draws : List Nat)
    (state : State) :
    AllOrNothing state.users (Provisions env state request id draws)
      ((provision env request id draws).runOn state) := by
  unfold provision
  refine bind_asking (fun _ _ => .refused) rfl (.ofExcept _) fun _ first checking kept => ?_
  have isEmail := isEmail_of_check (ofExcept_ok checking).1
  refine bind_asking (fun _ _ => .refused) kept (keeps_userByEmail env _)
    fun found second asked stays => ?_
  have answer := answer_ok asked
  rw [kept] at answer
  cases found with
  | some user => exact .done (.found isEmail answer.symm stays)
  | none =>
    refine bind_asking (fun _ _ => .refused) stays (keeps_freeName env _ _)
      fun name third naming kept => ?_
    have named := freeName_ok naming
    rw [stays] at named
    exact (record_told kept _).imp fun value after recorded =>
      .made isEmail answer.symm named recorded.1

/-! ## Setting fields -/

section Changes

variable {users : Users} {user later : User}

theorem refuseOther_ok {id : Uuid} {what : String} {found : Option User}
    (ran : (refuseOther id what found).runOn state = (.ok (), after)) :
    ∀ other, found = some other → other.id = id := by
  rintro other rfl
  rw [refuseOther] at ran
  split_ifs at ran with same
  · simp at ran
  · simpa using same

/-- A field that is given is set, and one that is missing stays. -/
inductive Sets {α : Type} (set : α → User → User → Prop) : Option α → User → User → Prop
  | missing {user : User} : Sets set none user user
  | given {value : α} {user later : User} (done : set value user later) :
    Sets set (some value) user later

def Renames (env : Env) (users : Users) (text : String) (user later : User) : Prop :=
  ∃ name, nameOf text = .ok name ∧
    (∀ other, users.findByUsername? name.text = some other → other.id = user.id) ∧
    later = user.rename name env.now

def Moves (env : Env) (users : Users) (text : String) (user later : User) : Prop :=
  isEmail text = true ∧
    (∀ other, users.findByEmail? (Text.trim text) = some other → other.id = user.id) ∧
    later = user.changeEmail (Text.trim text) env.now

def Rehashes (env : Env) (before after : List Call) (password : String) (user later : User) :
    Prop :=
  ∃ hash, HashMade env before after password hash ∧ later = user.changePasswordHash hash env.now

def Assigns (env : Env) (roles : List Role) (user later : User) : Prop :=
  roles ≠ [] ∧ later = user.assignRoles roles env.now

/-- A user is given the value of a key that nobody else has. -/
def Key.Gives {α : Type} (key : Key α) (env : Env) (users : Users) (text : String)
    (user later : User) : Prop :=
  ∃ value, key.read text = .ok value ∧
    (∀ other, key.holder? value users = some other → other.id = user.id) ∧
    later = key.set value env.now user

theorem Key.apply_ok {α : Type} (key : Key α) {given : Option String}
    (ran : (key.apply env user given).runOn state = (.ok later, after)) :
    Sets (key.Gives env state.users) given user later := by
  cases given with
  | none =>
    obtain rfl : user = later := by simpa [Key.apply] using congrArg Prod.fst ran
    exact .missing
  | some given =>
    obtain ⟨value, first, reading, rest⟩ := of_bind_ok ran
    obtain ⟨read, rfl⟩ := ofExcept_ok reading
    obtain ⟨holder, second, asked, rest⟩ := of_bind_ok rest
    obtain ⟨_, third, refused, rest⟩ := of_bind_ok rest
    obtain rfl : key.set value env.now user = later := by simpa using congrArg Prod.fst rest
    have answer := answer_ok asked
    exact .given ⟨value, read, fun other here => refuseOther_ok refused other (answer.trans here),
      rfl⟩

theorem applyUsername_ok {given : Option String}
    (ran : (applyUsername env user given).runOn state = (.ok later, after)) :
    Sets (Renames env state.users) given user later := by
  rw [applyUsername_eq] at ran
  cases Key.username.apply_ok ran with
  | missing => exact .missing
  | given done =>
    simp only [Key.Gives, Key.username] at done
    exact .given done

theorem applyEmail_ok {given : Option String}
    (ran : (applyEmail env user given).runOn state = (.ok later, after)) :
    Sets (Moves env state.users) given user later := by
  rw [applyEmail_eq] at ran
  cases Key.email.apply_ok ran with
  | missing => exact .missing
  | given done =>
    simp only [Key.Gives, Key.email] at done
    obtain ⟨email, read, own, rfl⟩ := done
    obtain ⟨checked, rfl⟩ := checkEmail_map_ok read
    exact .given ⟨checked, own, rfl⟩

theorem applyPassword_ok {given : Option String}
    (ran : (applyPassword env user given).runOn state = (.ok later, after)) :
    Sets (Rehashes env state.calls after.calls) given user later := by
  obtain ⟨hash, first, hashing, rest⟩ := of_bind_ok ran
  have made := hashGiven_made hashing
  cases made with
  | none =>
    obtain rfl : user = later := by simpa using congrArg Prod.fst rest
    exact .missing
  | @some password hash made =>
    obtain rfl : user.changePasswordHash hash env.now = later := by
      simpa using congrArg Prod.fst rest
    obtain rfl : first = after := congrArg Prod.snd rest
    exact .given ⟨hash, made, rfl⟩

theorem applyRoles_ok {given : Option (List Role)}
    (ran : (applyRoles env user given).runOn state = (.ok later, after)) :
    Sets (Assigns env) given user later := by
  cases given with
  | none =>
    obtain rfl : user = later := by simpa [applyRoles] using congrArg Prod.fst ran
    exact .missing
  | some roles =>
    rw [applyRoles] at ran
    split_ifs at ran with nothing
    · simp at ran
    · obtain rfl : user.assignRoles roles env.now = later := by simpa using congrArg Prod.fst ran
      exact .given ⟨by simpa using nothing, rfl⟩

theorem Sets.renamed {given : Option String} (sets : Sets (Renames env users) given user later) :
    ∃ name : Username, name.text = (given.map slug).getD user.username.text ∧
      later = { user with
        username := name, updatedAt := if given.isSome then env.now else user.updatedAt } := by
  cases sets with
  | missing => exact ⟨user.username, rfl, rfl⟩
  | given done =>
    obtain ⟨name, read, -, rfl⟩ := done
    exact ⟨name, Username.text_of_check (nameOf_eq_ok_iff.1 read), rfl⟩

theorem Sets.moved {given : Option String} (sets : Sets (Moves env users) given user later) :
    later = { user with
      email := (given.map Text.trim).getD user.email,
      updatedAt := if given.isSome then env.now else user.updatedAt } := by
  cases sets with
  | missing => rfl
  | given done =>
    obtain ⟨-, -, rfl⟩ := done
    rfl

theorem Sets.rehashed {before after : List Call} {given : Option String}
    (sets : Sets (Rehashes env before after) given user later) :
    ∃ hash, Option.Rel (HashMade env before after) given hash ∧
      later = { user with
        passwordHash := hash <|> user.passwordHash,
        updatedAt := if given.isSome then env.now else user.updatedAt } := by
  cases sets with
  | missing => exact ⟨none, .none, rfl⟩
  | given done =>
    obtain ⟨hash, made, rfl⟩ := done
    exact ⟨some hash, .some made, rfl⟩

theorem Sets.assigned {given : Option (List Role)} (sets : Sets (Assigns env) given user later) :
    later = { user with
      roles := given.getD user.roles,
      updatedAt := if given.isSome then env.now else user.updatedAt } := by
  cases sets with
  | missing => rfl
  | given done =>
    obtain ⟨-, rfl⟩ := done
    rfl

/-! ## Changes -/

/-- A change has been carried out: the fields given have been set one after the other, and the
finished user is in the place of the old one. -/
inductive Carried (env : Env) (state : State) (request : Change) (user : User) (after : State) :
    Prop
  | intro {old renamed moved hashed : User}
    (found : state.users.findById? request.user = some old)
    (username : Sets (Renames env state.users) request.username old renamed)
    (email : Sets (Moves env state.users) request.email renamed moved)
    (password : Sets (Rehashes env state.calls after.calls) request.password moved hashed)
    (roles : Sets (Assigns env) request.roles hashed user)
    (put : after.users = ⟨Users.replaceFirst user.detached state.users.records⟩) :
    Carried env state request user after

theorem Sets.widen {first before after last : List Call} {given : Option String}
    (sets : Sets (Rehashes env before after) given user later) (early : first <:+ before)
    (late : after <:+ last) : Sets (Rehashes env first last) given user later := by
  cases sets with
  | missing => exact .missing
  | given done =>
    obtain ⟨hash, made, set⟩ := done
    cases HashMade.widen (.some made) early late with
    | some made => exact .given ⟨hash, made, set⟩

theorem change_told (env : Env) (request : Change) (state : State) :
    AllOrNothing state.users (Carried env state request) ((change env request).runOn state) := by
  unfold change
  refine bind_asking (fun _ _ => .refused) rfl (keeps_userById env _)
    fun found first asked kept => ?_
  have answer := answer_ok asked
  cases found with
  | none => exact .refused kept
  | some old =>
    refine bind_asking (fun _ _ => .refused) kept (keeps_applyUsername env _ _)
      fun renamed second naming stays => ?_
    refine bind_asking (fun _ _ => .refused) stays (keeps_applyEmail env _ _)
      fun moved third moving stands => ?_
    refine bind_asking (fun _ _ => .refused) stands (keeps_applyPassword env _ _)
      fun hashed fourth hashing keeps => ?_
    refine bind_asking (fun _ _ => .refused) keeps (keeps_applyRoles env _ _)
      fun user fifth assigning last => ?_
    refine bind_writing (fun _ _ => .refused) last fun after updated called => ?_
    have username := applyUsername_ok naming
    rw [kept] at username
    have email := applyEmail_ok moving
    rw [stays] at email
    -- the hasher is asked in the third step, and from there on calls are only added
    have since : state.calls <:+ third.calls := calc state.calls
      _ <:+ first.calls := (keeps_userById env _).called asked
      _ <:+ second.calls := (keeps_applyUsername env _ _).called naming
      _ <:+ third.calls := (keeps_applyEmail env _ _).called moving
    have onward : fourth.calls <:+ after.calls := calc fourth.calls
      _ <:+ fifth.calls := (keeps_applyRoles env _ _).called assigning
      _ <:+ .updateUser user :: fifth.calls := List.suffix_cons _ _
      _ = after.calls := called.symm
    exact .done (.intro answer.symm username email
      ((applyPassword_ok hashing).widen since onward) (applyRoles_ok assigning) (update_ok updated))

end Changes

/-! ## Calls that are answered -/

section Calls

variable {env : Env} (users : env.outside.Reliable "users") {state : State}

include users

theorem asked_ok {α : Type} {call : Call} (goes : call.service? = some "users")
    (answer : Users → α) :
    (do env.callRecords call; return answer (← stored) : Act Failure α).runOn state =
      (.ok (answer state.users), state.noted call) := by
  rw [runOn_bind, runOn_callRecords, users.record call _ goes]
  rfl

theorem userById_ok (id : Uuid) :
    (userById env id).runOn state =
      (.ok (state.users.findById? id), state.noted (.findUserById id)) :=
  asked_ok users rfl (·.findById? id)

theorem userByEmail_ok (email : String) :
    (userByEmail env email).runOn state =
      (.ok (state.users.findByEmail? email), state.noted (.findUserByEmail email)) :=
  asked_ok users rfl (·.findByEmail? email)

theorem userByUsername_ok (name : String) :
    (userByUsername env name).runOn state =
      (.ok (state.users.findByUsername? name), state.noted (.findUserByUsername name)) :=
  asked_ok users rfl (·.findByUsername? name)

theorem record_ok {user : User} (fresh : ∀ other ∈ state.users.records, other.id ≠ user.id) :
    ∃ after, (record env user).runOn state = (.ok (user.detached, user.uncommitted), after) ∧
      after.users = ⟨state.users.records ++ [user.detached]⟩ := by
  have inserted : state.users.insert user = .ok ⟨state.users.records ++ [user.detached]⟩ := by
    rw [Users.insert, if_neg (by simpa using fresh)]
  have created : (createRecord env user).runOn state = (.ok (),
      { state.noted (.createUser user) with
        users := ⟨state.users.records ++ [user.detached]⟩ }) := by
    rw [createRecord, runOn_bind, runOn_callRecords, users.record (.createUser user) _ rfl]
    dsimp only
    have same : (state.noted (.createUser user)).users = state.users := rfl
    rw [runOn_storeChanged, same, inserted]
  exact ⟨_, runOn_bind_ok created, rfl⟩

end Calls

end Depot.Accounts
