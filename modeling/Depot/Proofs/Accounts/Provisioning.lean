import Depot.Proofs.Accounts.Usernames
import Depot.Proofs.Accounts.WellFormed

/-!
# When an account is provided

Where the users can be reached, someone with an email and a name to use is given an account:
the one of the email, or a new one without a password.  There is one exception.  A name that
is taken gets an ending of six characters, and one of more than twenty-six has no room for it:
then the request fails, and the users are as they were.
-/

set_option autoImplicit false

namespace Depot.Accounts

open Act

/-! ## Provisions -/

section Provisions

variable {env : Env} {state : State} {request : Provision} {id : Uuid} {draws : List Nat}
  {name : Username}

/-- Nobody has the email, somebody has the name, and no ending fits behind it. -/
def Crowded (users : Users) (request : Provision) (name : Username) : Prop :=
  users.findByEmail? (Text.trim request.email) = none ∧
    (users.findByUsername? name.text).isSome ∧ 26 < name.text.utf8ByteSize

/-- A provision has ended well: with the account of the email, or with a new one that has no
password and is no administrator. -/
inductive Provided (env : Env) (request : Provision) (id : Uuid) (draws : List Nat)
    (name : Username) (state : State) : Except Failure (User × List Event) × State → Prop
  | found {user : User} {after : State}
    (known : state.users.findByEmail? (Text.trim request.email) = some user)
    (same : after.users = state.users) :
    Provided env request id draws name state (.ok (user, []), after)
  | made {user : User} {after : State}
    (unknown : state.users.findByEmail? (Text.trim request.email) = none) (userId : user.id = id)
    (email : user.email = Text.trim request.email)
    (username : user.username.text = if (state.users.findByUsername? name.text).isSome then
      name.text ++ "_" ++ ending draws else name.text)
    (password : user.passwordHash = none) (roles : user.roles = [.user])
    (later : after.users = ⟨state.users.records ++ [user]⟩) :
    Provided env request id draws name state
      (.ok (user, [user.created request.correlation env.now]), after)

theorem runOn_checkEmail {given : String} (isEmail : isEmail given = true) :
    (Act.ofExcept (checkEmail given)).runOn state = (.ok (), state) := by
  rw [runOn_ofExcept, checkEmail, if_pos isEmail]

variable (users : env.outside.Reliable "users") (isEmail : isEmail request.email = true)

include users isEmail

theorem provision_found {user : User}
    (known : state.users.findByEmail? (Text.trim request.email) = some user) :
    (provision env request id draws).runOn state =
      (.ok (user, []), state.noted (.findUserByEmail (Text.trim request.email))) := by
  have asked := @userByEmail_ok env users state (Text.trim request.email)
  rw [known] at asked
  rw [provision, runOn_bind_ok (runOn_checkEmail isEmail)]
  dsimp only
  rw [runOn_bind_ok asked, runOn_pure]

theorem provision_new (unknown : state.users.findByEmail? (Text.trim request.email) = none) :
    (provision env request id draws).runOn state =
      (do
        let username ← freeName env request.displayName draws
        record env (User.register id username (Text.trim request.email) none [.user]
          request.correlation env.now) : Act Failure (User × List Event)).runOn
        (state.noted (.findUserByEmail (Text.trim request.email))) := by
  have asked := @userByEmail_ok env users state (Text.trim request.email)
  rw [unknown] at asked
  rw [provision, runOn_bind_ok (runOn_checkEmail isEmail)]
  dsimp only
  rw [runOn_bind_ok asked]

omit isEmail in
theorem runOn_freeName (read : Username.parse request.displayName = .ok name) :
    (freeName env request.displayName draws).runOn state =
      (if (state.users.findByUsername? name.text).isSome then
          (uniqueName name.text draws).mapError UsernameFault.failure
        else .ok name,
      state.noted (.findUserByUsername name.text)) := by
  have naming : (Act.ofExcept (nameOf request.displayName)).runOn state = (.ok name, state) := by
    rw [runOn_ofExcept, nameOf_eq_ok_iff.2 read]
  have asked := @userByUsername_ok env users state name.text
  rw [freeName, runOn_bind_ok naming, runOn_bind_ok asked]
  cases state.users.findByUsername? name.text with
  | none => rfl
  | some other =>
    dsimp only [Option.isSome_some]
    cases uniqueName name.text draws <;> rfl

variable (read : Username.parse request.displayName = .ok name) (proper : ProperDraws draws)

include read proper

theorem provided_of_room (fresh : ∀ other ∈ state.users.records, other.id ≠ id)
    (room : ¬ Crowded state.users request name) :
    Provided env request id draws name state ((provision env request id draws).runOn state) := by
  cases known : state.users.findByEmail? (Text.trim request.email) with
  | some user =>
    rw [provision_found users isEmail known]
    exact .found known rfl
  | none =>
    have naming := @runOn_freeName env (state.noted (.findUserByEmail (Text.trim request.email)))
      request draws name users read
    -- Whatever the name is, the account is recorded under it.
    have made (username : Username)
        (text : username.text = if (state.users.findByUsername? name.text).isSome then
          name.text ++ "_" ++ ending draws else name.text)
        {middle : State} (named : (freeName env request.displayName draws).runOn
          (state.noted (.findUserByEmail (Text.trim request.email))) = (.ok username, middle))
        (same : middle.users = state.users) :
        Provided env request id draws name state
          ((provision env request id draws).runOn state) := by
      obtain ⟨after, recorded, later⟩ := @record_ok env users middle
        (User.register id username (Text.trim request.email) none [.user] request.correlation
          env.now) (same ▸ fresh)
      rw [provision_new users isEmail known, runOn_bind_ok named, recorded]
      exact .made known rfl rfl text rfl rfl (by rw [later, same])
    rw [State.noted_users] at naming
    cases taken : (state.users.findByUsername? name.text).isSome with
    | false =>
      rw [taken] at naming
      exact made name (by rw [taken]; rfl) naming rfl
    | true =>
      rcases uniqueName_of_normal (Username.parse_normal read) proper with
        ⟨long, -⟩ | ⟨-, unique, drawn, text⟩
      · exact absurd ⟨known, taken, long⟩ room
      · rw [taken, drawn] at naming
        exact made unique (by rw [taken, text]; rfl) naming rfl

theorem provision_crowded (crowded : Crowded state.users request name) :
    ∃ after, (provision env request id draws).runOn state =
        (.error (.invalid UsernameFault.tooLong.message), after) ∧ after.users = state.users := by
  obtain ⟨unknown, taken, long⟩ := crowded
  rcases uniqueName_of_normal (Username.parse_normal read) proper with ⟨-, refused⟩ | ⟨short, -⟩
  · have naming := @runOn_freeName env (state.noted (.findUserByEmail (Text.trim request.email)))
      request draws name users read
    rw [State.noted_users, taken, refused] at naming
    rw [provision_new users isEmail unknown, runOn_bind_error naming]
    exact ⟨_, rfl, rfl⟩
  · omega

/-- Where the users can be reached, a provision with an email, a name to use and proper draws ends
well unless it is crowded, and then it fails for the length of a name and changes no user. -/
theorem provision_ends_well_iff (fresh : ∀ other ∈ state.users.records, other.id ≠ id) :
    (Provided env request id draws name state ((provision env request id draws).runOn state) ↔
      ¬ Crowded state.users request name) ∧
    (Crowded state.users request name →
      ∃ after, (provision env request id draws).runOn state =
        (.error (.invalid UsernameFault.tooLong.message), after) ∧
          after.users = state.users) := by
  have crowds := @provision_crowded env state request id draws name users isEmail read proper
  refine ⟨⟨fun provided crowded => ?_, provided_of_room users isEmail read proper fresh⟩, crowds⟩
  obtain ⟨after, failed, -⟩ := crowds crowded
  rw [failed] at provided
  cases provided

end Provisions

/-! ## Where the room ends -/

def longName (length : Nat) : String := String.ofList (.replicate length 'a')

def longNamed (length : Nat) : List Step :=
  [⟨.plain, .register { username := longName length, email := "first@example.org" } (.ofNat 1)⟩]

def sameNamed (length : Nat) : Provision where
  displayName := longName length
  email := "second@example.org"

theorem longName_allowed :
    checkUsername (longName 26) = none ∧ checkUsername (longName 27) = none := by decide +kernel

/-- A name of twenty-six characters that is taken is given with an ending. -/
theorem provision_ends_well_iff_longNamed :
    (run (longNamed 26) {}).users.names = [longName 26] ∧
      ∃ user events after, (provision .plain (sameNamed 26) (.ofNat 2)
          [0, 1, 2, 26, 35]).runOn (run (longNamed 26) {}) = (.ok (user, events), after) ∧
        user.username.text = longName 26 ++ "_abc09" := by
  obtain ⟨ends, -⟩ := @provision_ends_well_iff .plain (run (longNamed 26) {}) (sameNamed 26)
    (.ofNat 2) [0, 1, 2, 26, 35] ⟨longName 26, longName_allowed.1⟩ (Outside.plain_reliable _)
    (by decide +kernel) (by decide +kernel) ⟨rfl, by decide⟩ (by decide +kernel)
  have provided := ends.2 fun crowded => absurd crowded.2.2 (by decide +kernel)
  refine ⟨by decide +kernel, ?_⟩
  have unknown :
      (run (longNamed 26) {}).users.findByEmail? (Text.trim (sameNamed 26).email) = none := by
    rw [← Option.isNone_iff_eq_none]
    decide +kernel
  have taken : ((run (longNamed 26) {}).users.findByUsername? (longName 26)).isSome = true := by
    decide +kernel
  generalize (provision .plain (sameNamed 26) (.ofNat 2) [0, 1, 2, 26, 35]).runOn
    (run (longNamed 26) {}) = result at provided
  cases provided with
  | found known same =>
    rw [unknown] at known
    cases known
  | made unknown userId email username password roles later =>
    refine ⟨_, _, _, rfl, username.trans ?_⟩
    rw [if_pos taken]
    decide +kernel

/-- With one character more there is no account for the second. -/
theorem longNamed_turned_away :
    (∀ step ∈ longNamed 27, step.operation.OnAccounts) ∧
      isEmail (sameNamed 27).email = true ∧
      (∃ name, Username.parse (sameNamed 27).displayName = .ok name) ∧
      ProperDraws [0, 1, 2, 26, 35] ∧
      (∀ other ∈ (run (longNamed 27) {}).users.records, other.id ≠ .ofNat 2) ∧
      ∃ after, (provision .plain (sameNamed 27) (.ofNat 2)
          [0, 1, 2, 26, 35]).runOn (run (longNamed 27) {}) =
        (.error (.invalid "username must be at most 32 characters"), after) := by
  refine ⟨?_, by decide +kernel, ⟨⟨longName 27, longName_allowed.2⟩, by decide +kernel⟩,
    ⟨rfl, by decide⟩,
    by decide +kernel, _, Prod.ext (by decide +kernel) rfl⟩
  intro step member
  rw [List.mem_singleton.1 member]
  trivial

end Depot.Accounts
