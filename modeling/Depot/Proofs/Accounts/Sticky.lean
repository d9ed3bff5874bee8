import Depot.Proofs.Accounts.Provisioning
import Depot.Proofs.Accounts.Returned

/-!
# Accounts that stay found

Once an account has been provided for an email, it is the account of that email until it is
deleted or given another one.  Whatever is done to other accounts in between, a provision for
the email finds it, under whatever name, and a registration for the email is refused; neither
changes the users.
-/

set_option autoImplicit false

namespace Depot

namespace Accounts

/-- The account of an email. -/
def Users.Seats (users : Users) (id : Uuid) (email : String) : Prop :=
  ∃ user ∈ users.records, user.id = id ∧ user.email = email

open Act

variable {env : Env} {users : Users} {user : User} {id : Uuid} {email given : String}

/-! ## The stored users -/

theorem Users.Seats.join (seats : users.Seats id email) (user : User) :
    Users.Seats ⟨users.records ++ [user]⟩ id email := by
  obtain ⟨holder, member, own⟩ := seats
  exact ⟨holder, List.mem_append_left _ member, own⟩

theorem Users.Seats.erase (seats : users.Seats id email) {other : Uuid} (another : other ≠ id) :
    (users.erase other).Seats id email := by
  obtain ⟨holder, member, rfl, own⟩ := seats
  exact ⟨holder, List.mem_filter.2 ⟨member, by simpa using another.symm⟩, rfl, own⟩

theorem Users.Seats.replace (seats : users.Seats id email)
    (same : user.id = id → user.email = email) :
    Users.Seats ⟨Users.replaceFirst user users.records⟩ id email := by
  obtain ⟨holder, member, rfl, own⟩ := seats
  by_cases here : holder.id = user.id
  · exact ⟨user, mem_replaceFirst_self member here, here.symm, same here.symm⟩
  · exact ⟨holder, mem_replaceFirst_of_ne member here, rfl, own⟩

theorem Users.Seats.found (seats : users.Seats id email) (distinct : users.Distinct) :
    ∃ user, users.findByEmail? email = some user ∧ user.id = id := by
  obtain ⟨holder, member, rfl, rfl⟩ := seats
  cases found : users.findByEmail? holder.email with
  | none => exact absurd rfl (new_of_find (·.email) found holder member)
  | some other =>
    have there : other ∈ users.records := List.mem_of_find?_eq_some found
    have shared : other.email = holder.email := by simpa using List.find?_some found
    rw [List.inj_on_of_nodup_map distinct.emails there member shared]
    exact ⟨holder, rfl, rfl⟩

theorem Enrolment.seats {named : Username → Prop}
    {ended : Except Failure (User × List Event) × State}
    (enrolment : Enrolment env users given named ended) (seats : users.Seats id email) :
    ended.2.users.Seats id email := by
  cases enrolment with
  | refused same => exact same ▸ seats
  | found same => exact same ▸ seats
  | joined joins name more => exact more ▸ seats.join _

theorem Enrolment.distinct {named : Username → Prop}
    {ended : Except Failure (User × List Event) × State}
    (enrolment : Enrolment env users given named ended) (distinct : users.Distinct) :
    ended.2.users.Distinct := by
  cases enrolment with
  | refused same => exact same ▸ distinct
  | found same => exact same ▸ distinct
  | joined joins name more => exact more ▸ distinct.join joins

/-! ## Registrations for a known email -/

theorem isEmail_of_trim {other : String} (same : Text.trim other = Text.trim given)
    (isEmail : isEmail given = true) : Accounts.isEmail other = true := by
  rw [Accounts.isEmail, same]
  exact isEmail

theorem register_taken {state : State} (reliable : env.outside.Reliable "users")
    {request : Registration} {name : Username} (isEmail : isEmail request.email = true)
    (read : Username.parse request.username = .ok name)
    (known : state.users.findByEmail? (Text.trim request.email) = some user) :
    (register env request id).runOn state = (.error (.alreadyExists "user already exists"),
      (state.noted (.findUserByEmail (Text.trim request.email))).noted
        (.findUserByUsername name.text)) := by
  have naming : (Act.ofExcept (nameOf request.username)).runOn state = (.ok name, state) := by
    rw [runOn_ofExcept, nameOf_eq_ok_iff.2 read]
  have sameEmail := @userByEmail_ok env reliable state (Text.trim request.email)
  have sameName := @userByUsername_ok env reliable
    (state.noted (.findUserByEmail (Text.trim request.email))) name.text
  rw [known] at sameEmail
  rw [register, runOn_bind_ok (runOn_checkEmail isEmail)]
  dsimp only
  rw [runOn_bind_ok naming, runOn_bind_ok sameEmail, runOn_bind_ok sameName]
  rfl

end Accounts

open Accounts Act

/-! ## One step -/

/-- The use case deletes an account, or gives it another email than the one it has. -/
def Operation.Ousts (env : Env) (id : Uuid) (email : String) (state : State) : Operation → Prop
  | deleteUser user correlation =>
    user = id ∧ ((delete env user correlation).runOn state).1.isOk = true
  | change request => ∃ user after, (Accounts.change env request).runOn state = (.ok user, after) ∧
    user.id = id ∧ user.email ≠ email
  | _ => False

def Step.Ousts (id : Uuid) (email : String) (state : State) (step : Step) : Prop :=
  step.operation.Ousts step.env id email state

theorem Operation.seats_next {env : Env} {operation : Operation} {state : State} {id : Uuid}
    {email : String} (onAccounts : operation.OnAccounts)
    (stays : ¬ operation.Ousts env id email state) (seats : state.users.Seats id email) :
    (operation.next env state).users.Seats id email := by
  cases operation with
  | register request new =>
    have enrolled := (enrolment_register env request new state).seats seats
    rwa [next]
  | provision request new draws =>
    have enrolled := (enrolment_provision env request new draws state).seats seats
    rwa [next]
  | change request =>
    have changed := changed_change env request state
    rw [next]
    cases ran : (Accounts.change env request).runOn state with
    | mk result after =>
      rw [ran] at changed
      cases changed with
      | refused same => exact same ▸ seats
      | @amended old user _ found amends later =>
        rw [later]
        refine seats.replace fun own => ?_
        by_contra other
        exact stays ⟨user, after, ran, own, other⟩
  | deleteUser user correlation =>
    rw [next]
    rcases delete_ends env user correlation state with same | ⟨well, gone⟩
    · exact same ▸ seats
    · rw [gone]
      exact seats.erase fun same => stays ⟨same, well⟩
  | _ => cases onAccounts

/-! ## Runs -/

section Run

variable {state : State} {steps earlier later : List Step}

theorem run_distinct (onAccounts : ∀ step ∈ steps, step.operation.OnAccounts)
    (distinct : state.users.Distinct) : (run steps state).users.Distinct :=
  run_revised onAccounts distinct_revised distinct

/-- An account keeps its email as long as no step ousts it. -/
theorem run_seats {id : Uuid} {email : String}
    (onAccounts : ∀ step ∈ steps, step.operation.OnAccounts)
    (stays : ∀ done step, done ++ [step] <+: steps → ¬ step.Ousts id email (run done state))
    (seats : state.users.Seats id email) : (run steps state).users.Seats id email := by
  induction steps using List.reverseRecOn with
  | nil => exact seats
  | append_singleton done step ih =>
    rw [run_concat]
    have before := ih (fun other member => onAccounts other (List.mem_append_left _ member))
      fun first next part => stays first next (part.trans (List.prefix_append done [step]))
    exact Operation.seats_next (onAccounts step (by simp))
      (stays done step List.prefix_rfl) before

/-- **A provided account sticks.**  In a run from no users, an account that has been provided for
an email is found by every later provision for it, and every later registration for it is refused,
as long as no step in between deletes it or gives it another email. -/
theorem provision_sticks (nobody : state.users = {})
    (onAccounts : ∀ step ∈ earlier ++ later, step.operation.OnAccounts) {env : Env}
    {request : Provision} {id : Uuid} {draws : List Nat} {user : User} {events : List Event}
    {first : State} (given : (provision env request id draws).runOn (run earlier state) =
      (.ok (user, events), first))
    (stays : ∀ done step, done ++ [step] <+: later →
      ¬ step.Ousts user.id (Text.trim request.email) (run done first)) :
    (∀ (env : Env) (again : Provision) (new : Uuid) (draws : List Nat),
      env.outside.Reliable "users" → Text.trim again.email = Text.trim request.email →
        ∃ found after, (provision env again new draws).runOn (run later first) =
            (.ok (found, []), after) ∧
          found.id = user.id ∧ after.users = (run later first).users) ∧
    ∀ (env : Env) (registration : Registration) (new : Uuid) (name : Username),
      env.outside.Reliable "users" → Text.trim registration.email = Text.trim request.email →
        Username.parse registration.username = .ok name →
          ∃ after, (register env registration new).runOn (run later first) =
              (.error (.alreadyExists "user already exists"), after) ∧
            after.users = (run later first).users := by
  have isEmail : isEmail request.email = true := by
    obtain ⟨_, _, checking, -⟩ := of_bind_ok given
    exact isEmail_of_check (ofExcept_ok checking).1
  have distinct : (run later first).users.Distinct := by
    have before := @run_distinct state earlier
      (fun step member => onAccounts step (List.mem_append_left _ member))
      (nobody ▸ ⟨.nil, .nil⟩)
    have enrolled := (enrolment_provision env request id draws (run earlier state)).distinct before
    rw [given] at enrolled
    exact run_distinct (fun step member => onAccounts step (List.mem_append_right _ member))
      enrolled
  have seats : (run later first).users.Seats user.id (Text.trim request.email) := by
    obtain ⟨stored, email⟩ := stored_of_provision given
    exact run_seats (fun step member => onAccounts step (List.mem_append_right _ member)) stays
      ⟨user, stored, rfl, email⟩
  obtain ⟨holder, known, own⟩ := seats.found distinct
  constructor
  · intro env again new draws reliable same
    rw [← same] at known
    refine ⟨holder, _, provision_found reliable (isEmail_of_trim same isEmail) known, own, ?_⟩
    rw [State.noted_users]
  · intro env registration new name reliable same read
    rw [← same] at known
    refine ⟨_, register_taken reliable (isEmail_of_trim same isEmail) read known, ?_⟩
    rw [State.noted_users, State.noted_users]

/-! ## An account that sticks -/

def anaProvided : Except Failure (User × List Event) × State :=
  (provision .plain { displayName := "Ana", email := "ana@example.org" } (.ofNat 2) []).runOn
    (run [⟨.plain, .register { username := "ben", email := "ben@example.org" } (.ofNat 1)⟩] {})

def anaRenamed : Change :=
  { user := .ofNat 2, username := some "anna", email := some " ana@example.org" }

def afterAna : List Step :=
  [⟨.plain, .change anaRenamed⟩, ⟨.plain, .deleteUser (.ofNat 1) .nil⟩]

/-- Ana's email, in blanks and without a name, still leads to her account. -/
theorem provision_sticks_ana :
    ∃ found after, (provision .plain { displayName := "", email := "  ana@example.org " }
        (.ofNat 3) []).runOn (run afterAna anaProvided.2) = (.ok (found, []), after) ∧
      found.id = .ofNat 2 ∧ after.users = (run afterAna anaProvided.2).users := by
  have trimmed : Text.trim "ana@example.org" = "ana@example.org" := by decide +kernel
  have made : anaProvided.1.toOption.map (·.1.id) = some (.ofNat 2) := by decide +kernel
  have renamed :
      ((Accounts.change .plain anaRenamed).runOn anaProvided.2).1.toOption.map (·.email) =
        some "ana@example.org" := by decide +kernel
  cases result : anaProvided.1 with
  | error failure =>
    rw [result] at made
    cases made
  | ok taken =>
    obtain ⟨user, events⟩ := taken
    rw [result] at made
    have own : user.id = .ofNat 2 := Option.some.inj made
    have stays : ∀ done step, done ++ [step] <+: afterAna →
        ¬ step.Ousts user.id (Text.trim "ana@example.org") (run done anaProvided.2) := by
      intro done step part
      rw [own, trimmed]
      rcases done with _ | ⟨first, _ | ⟨second, rest⟩⟩
      · obtain rfl : step = ⟨.plain, .change anaRenamed⟩ := by simpa [afterAna] using part
        rintro ⟨other, after, ran, -, another⟩
        replace ran : (Accounts.change .plain anaRenamed).runOn anaProvided.2 =
          (.ok other, after) := ran
        rw [ran] at renamed
        exact another (Option.some.inj renamed)
      · obtain ⟨-, rfl⟩ : first = ⟨.plain, .change anaRenamed⟩ ∧
            step = ⟨.plain, .deleteUser (.ofNat 1) .nil⟩ := by simpa [afterAna] using part
        rintro ⟨same, -⟩
        exact absurd same (by decide)
      · simpa [afterAna] using part.length_le
    have onAccounts : ∀ step ∈
        [⟨.plain, .register { username := "ben", email := "ben@example.org" } (.ofNat 1)⟩] ++
          afterAna, step.operation.OnAccounts := by
      simp [afterAna, Operation.OnAccounts]
    obtain ⟨again, -⟩ := provision_sticks rfl onAccounts (Prod.ext result rfl) stays
    rw [own] at again
    exact again .plain _ _ _ (Outside.plain_reliable _) (by decide +kernel)

end Run

end Depot
