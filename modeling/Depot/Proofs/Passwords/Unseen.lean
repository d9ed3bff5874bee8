import Depot.Proofs.Json.Records
import Depot.Proofs.Passwords.Hashes
import Depot.Proofs.Passwords.Service

/-!
# Passwords are not seen

What passwords hold does not show: not in replies, not in events that are delivered, and of the
stored users only in their hashes, each of which is made of the last password accepted.
-/

set_option autoImplicit false

namespace Depot

/-! ## What handlers are told -/

/-- Whether a call tells a handler of an event. -/
def Call.tells : Call → Bool
  | handledAccount .. | handledFile .. => true
  | _ => false

/-- What handlers have been told of by either dispatcher, in order. -/
def State.deliveries (state : State) : List Call := state.calls.reverse.filter Call.tells

theorem Call.veiled_tells (call : Call) : call.veiled.tells = call.tells := by cases call <;> rfl

theorem Call.veiled_of_tells {call : Call} (tells : call.tells = true) : call.veiled = call := by
  cases call <;> first | rfl | cases tells

theorem veiled_deliveries (calls : List Call) :
    (calls.map Call.veiled).filter Call.tells = calls.filter Call.tells := by
  rw [List.filter_map, show Call.tells ∘ Call.veiled = Call.tells from funext Call.veiled_tells]
  refine (List.map_congr_left fun call told => ?_).trans (List.map_id _)
  exact Call.veiled_of_tells (List.mem_filter.1 told).2

theorem State.Alike.deliveries {first second : State} (alike : first.Alike second) :
    first.deliveries = second.deliveries := by
  rw [State.deliveries, State.deliveries, List.filter_reverse, List.filter_reverse,
    ← veiled_deliveries, alike.calls, veiled_deliveries]

/-! ## The last password accepted -/

/-- The stored users stay as they are. -/
def Frame.sameUsers : Frame where
  Allows before after := after.users = before.users
  stay _ := rfl
  chain earlier later := later.trans earlier

namespace Frame

theorem sameUsers_files (recorded : Files.File → Prop) : sameUsers.AdmitsFiles recorded where
  note _ _ _ _ := rfl
  insert _ _ _ _ _ := rfl
  thin _ _ _ := rfl
  change _ _ _ := rfl

theorem sameUsers_fileEvents : sameUsers.AdmitsFileEvents where
  tell _ _ _ := rfl
  turn _ _ _ := rfl

theorem sameUsers_accountEvents : sameUsers.AdmitsAccountEvents where
  tell _ _ _ := rfl
  turn _ _ _ := rfl

end Frame

namespace Service

open Act Accounts

/-- The password that the body of a request gives for an account that is made or changed. -/
def Request.password? (request : Request) (app : App) : Option String :=
  match request.wish with
  | some .createUser =>
    (readBody app.maxBodyBytes registrationReader request).toOption.bind (·.password)
  | some (.changeUser written) =>
    (readUuid? written).bind fun id =>
      (readBody app.maxBodyBytes (changeReader id) request).toOption.bind (·.password)
  | _ => none

namespace Visit

/-- The password that the request gives, with the services that are there to hash it. -/
def given (visit : Visit) : Option Given := givenIn visit.env (visit.request.password? visit.app)

/-- The user that the request changes, if it is carried out. -/
def changed? (visit : Visit) (before : State) : Option Uuid :=
  match visit.request.wish with
  | some (.changeUser written) =>
    if ((act visit.env visit.app visit.drawn visit.request).runOn before).1.isOk then
      readUuid? written
    else none
  | _ => none

/-- The last password accepted for each user, after a request. -/
def accept (visit : Visit) (before : State) (known : Uuid → Option Given) : Uuid → Option Given :=
  entered known visit.given (visit.changed? before) before.users (visit.next before).users

end Visit

/-- The last password accepted for each user, after requests, with what was known before them. -/
def lastGiven : List Visit → State → (Uuid → Option Given) → Uuid → Option Given
  | [], _, known => known
  | visit :: rest, state, known => lastGiven rest (visit.next state) (visit.accept state known)

section Outcomes

variable {env : Env} {app : App} {drawn : Drawn} {before : State} {visit : Visit}

theorem leaves_onAccounts {α β : Type} {Holds : State → Prop} {making : Act Failure α}
    {next : α → Act Refusal β} (left : Leaves Holds (making.runOn before))
    (later : ∀ value, (next value).Keeps (.preserving Holds)) :
    Leaves Holds ((onAccounts making >>= next).runOn before) := by
  refine bind_cases (fun failure middle ran => ?_) fun value middle ran => ?_
  · obtain ⟨_, failed, -⟩ := of_mapFailure_error ran
    rw [failed] at left
    exact left
  · rw [of_mapFailure_ok ran] at left
    exact later value middle left

theorem preserving_of_sameUsers {ε α : Type} {act : Act ε α} (kept : act.Keeps .sameUsers)
    {Holds : Users → Prop} : act.Keeps (.preserving fun state => Holds state.users) := by
  intro state held
  have same : (act.runOn state).2.users = state.users := kept state
  rwa [same]

theorem sameUsers_announceUser (user : User) (events : List Event) :
    (announceUser env user events).Keeps .sameUsers :=
  kept_announceUser (Frame.sameUsers_files fun _ => True) Frame.sameUsers_accountEvents user events

theorem outcome_createUser {request : Request} (asked : request.wish = some .createUser) :
    Leaves (fun after => Outcome before.users (givenIn env (request.password? app)) none after.users)
      ((createUser env app drawn request).runOn before) := by
  unfold createUser
  rw [runOn_bind, runOn_ofExcept]
  cases read : readBody app.maxBodyBytes registrationReader request with
  | error refusal => exact .same rfl
  | ok body =>
    have password : request.password? app = body.password := by
      rw [Request.password?, asked]
      dsimp only
      rw [read]
      rfl
    rw [password]
    have made := outcome_register env { body with correlation := drawn.correlation }
      drawn.id before
    exact leaves_onAccounts made fun stored =>
      preserving_of_sameUsers (.bind (sameUsers_announceUser _ _) fun _ => .pure _)

theorem outcome_provisionUser (request : Request) :
    Leaves (fun after => Outcome before.users none none after.users)
      ((provisionUser env app drawn request).runOn before) := by
  unfold provisionUser
  rw [runOn_bind, runOn_ofExcept]
  cases readBody app.maxBodyBytes provisionReader request with
  | error refusal => exact .same rfl
  | ok body =>
    exact leaves_onAccounts (outcome_provision env _ _ _ before) fun stored =>
      preserving_of_sameUsers (.bind (sameUsers_announceUser _ _) fun _ => .pure _)

theorem outcome_deleteUser (written : String) :
    Leaves (fun after => Outcome before.users none none after.users)
      ((deleteUser env drawn written).runOn before) := by
  rcases uuidPart_cases written before with ⟨id, -, reading⟩ | ⟨-, refusal, reading⟩
  · rw [deleteUser, runOn_bind_ok reading]
    exact leaves_onAccounts (outcome_delete env id drawn.correlation before) fun _ => .pure _
  · rw [deleteUser, runOn_bind_error reading]
    exact .same rfl

theorem outcome_changeUser {request : Request} {written : String}
    (asked : request.wish = some (.changeUser written)) :
    Outcome before.users (givenIn env (request.password? app))
      (if ((changeUser env app written request).runOn before).1.isOk then readUuid? written
        else none)
      ((changeUser env app written request).runOn before).2.users := by
  rcases uuidPart_cases written before with ⟨id, read, reading⟩ | ⟨-, refusal, reading⟩
  · rw [changeUser, runOn_bind_ok reading, runOn_bind, runOn_ofExcept, read]
    cases body : readBody app.maxBodyBytes (changeReader id) request with
    | error refusal => exact .same rfl
    | ok change =>
      have password : request.password? app = change.password := by
        rw [Request.password?, asked]
        dsimp only
        rw [read, Option.bind_some, body]
        rfl
      obtain rfl : change.user = id := changeReader_user body
      rw [password]
      have ends := outcome_change env change before
      suffices whole : ChangeOutcome before.users (givenIn env change.password) change.user
          ((do
            let user ← onAccounts (Accounts.change env change)
            return Reply.json 200 user.view : Act Refusal Reply).runOn before) from whole
      refine bind_cases (fun failure middle ran => ?_) fun user middle ran => ?_
      · obtain ⟨_, failed, -⟩ := of_mapFailure_error ran
        rw [failed] at ends
        exact ends
      · rw [of_mapFailure_ok ran] at ends
        exact ends
  · rw [changeUser, runOn_bind_error reading]
    exact .same rfl

/-- Whether a password may be given with what is asked for. -/
def Wish.takesPassword : Wish → Bool
  | createUser | changeUser _ => true
  | _ => false

theorem Visit.gives_nothing {wish : Wish} (asked : visit.request.wish = some wish)
    (silent : wish.takesPassword = false) :
    visit.given = none ∧ visit.changed? before = none := by
  rw [given, changed?, Request.password?, asked]
  cases wish with
  | createUser => cases silent
  | changeUser written => cases silent
  | _ => exact ⟨rfl, rfl⟩

theorem Visit.outcome_of_files {wish : Wish} (asked : visit.request.wish = some wish)
    (onFiles : wish.onAccounts = false) :
    Outcome before.users visit.given (visit.changed? before) (visit.next before).users := by
  have silent : wish.takesPassword = false := by
    cases wish <;> first | rfl | cases onFiles
  obtain ⟨password, unchanged⟩ := visit.gives_nothing asked silent
  rw [password, unchanged]
  exact .same (allows_fileWish (Frame.sameUsers_files _) Frame.sameUsers_fileEvents asked onFiles)

/-- What a request does to the stored users, with the password that it gives. -/
theorem Visit.outcome (visit : Visit) (before : State) :
    Outcome before.users visit.given (visit.changed? before) (visit.next before).users := by
  have next := next_eq visit before
  cases asked : visit.request.wish with
  | none =>
    have looks := keeps_act visit.env visit.app visit.drawn asked
    have same := Files.kept_looking (Frame.sameUsers_files fun _ => True) looks before
    rw [changed?, asked, next]
    exact .same same
  | some wish =>
    have acts := act_of_wish visit.env visit.app visit.drawn asked
    rw [acts] at next
    cases wish with
    | createUser =>
      rw [changed?, asked, next]
      exact outcome_createUser asked
    | provisionUser =>
      obtain ⟨password, unchanged⟩ := visit.gives_nothing asked rfl
      rw [password, unchanged, next]
      exact outcome_provisionUser visit.request
    | changeUser written =>
      rw [changed?, asked, next, acts]
      exact outcome_changeUser asked
    | deleteUser written =>
      obtain ⟨password, unchanged⟩ := visit.gives_nothing asked rfl
      rw [password, unchanged, next]
      exact outcome_deleteUser written
    | upload entityType entityId field => exact visit.outcome_of_files asked rfl
    | clearSlot entityType entityId field => exact visit.outcome_of_files asked rfl
    | deleteFile id => exact visit.outcome_of_files asked rfl

end Outcomes

theorem filed_visitAll (visits : List Visit) {start : State} {known : Uuid → Option Given}
    (ids : (start.users.records.map (·.id)).Nodup) (filed : start.users.Filed known) :
    (visitAll visits start).users.Filed (lastGiven visits start known) := by
  unfold visitAll
  induction visits generalizing start known with
  | nil => exact filed
  | cons visit rest ih =>
    have outcome := visit.outcome start
    rw [List.foldl_cons, lastGiven]
    exact ih (outcome.ids ids) (outcome.filed ids filed)

/-! ## Two runs -/

/-- What passwords hold does not show in replies, in deliveries, or in stored users but for their
hashes; and each hash is made of the last password accepted for its user.  Of the replies, only the
framework's own words for a body that it cannot read may go with the body. -/
theorem passwords_unseen {firsts seconds : List Visit}
    (visits : List.Forall₂ Visit.Alike firsts seconds) {start : State}
    (nobody : start.users.records = []) :
    List.Forall₂ Exchange.Alike (exchanges firsts start) (exchanges seconds start) ∧
      (List.Forall₂ Visit.WordedAlike firsts seconds →
        replies firsts start = replies seconds start) ∧
      (visitAll firsts start).deliveries = (visitAll seconds start).deliveries ∧
      (visitAll firsts start).users.veiled = (visitAll seconds start).users.veiled ∧
      (visitAll firsts start).users.Filed (lastGiven firsts start fun _ => none) ∧
      (visitAll seconds start).users.Filed (lastGiven seconds start fun _ => none) := by
  have ids : (start.users.records.map (·.id)).Nodup := by
    rw [nobody]
    exact .nil
  have filed : start.users.Filed fun _ => none := by
    intro user member
    rw [nobody] at member
    cases member
  obtain ⟨alike, ends⟩ := alike_visitAll visits (Eq.refl start.veiled)
  exact ⟨alike, fun words => replies_eq words alike, ends.deliveries, ends.users,
    filed_visitAll firsts ids filed, filed_visitAll seconds ids filed⟩

def signUp (outside : Outside) (password : String) : Visit where
  env := ⟨⟨0, 0⟩, ⟨"", ""⟩, outside⟩
  app := .small
  drawn := ⟨.ofNat 1, .nil, []⟩
  request := ⟨"POST", "/api/v1/users", some "application/json",
    ("\x7b\"username\":\"keeper\",\"email\":\"keeper@example.org\",\"password\":\"" ++ password ++
      "\"\x7d").toUTF8⟩

def renew (outside : Outside) (password : String) : Visit where
  env := ⟨⟨1, 0⟩, ⟨"", ""⟩, outside⟩
  app := .small
  drawn := ⟨.nil, .nil, []⟩
  request := ⟨"PATCH", "/api/v1/users/00000000-0000-0000-0000-000000000001",
    some "application/json", ("\x7b\"password\":\"" ++ password ++ "\"\x7d").toUTF8⟩

def blindHasher : Outside := { Outside.plain with hash := fun _ _ => "hash" }

theorem blindHasher_alike : Outside.plain.Alike blindHasher :=
  ⟨fun _ => rfl, fun _ => rfl, fun _ => rfl, fun _ => rfl, fun _ => rfl⟩

theorem passwords_unseen_renewed :
    let firsts := [signUp .plain "first", renew .plain "second"]
    let seconds := [signUp blindHasher "another", renew blindHasher "one more"]
    ((replies firsts recorded).map (·.status) = [201, 200] ∧
        (visitAll firsts recorded).deliveries.length = 1 ∧
        (visitAll firsts recorded).users.records.map (·.passwordHash) = [some "second"] ∧
        (visitAll seconds recorded).users.records.map (·.passwordHash) = [some "hash"]) ∧
      replies firsts recorded = replies seconds recorded ∧
      (visitAll firsts recorded).deliveries = (visitAll seconds recorded).deliveries ∧
      (visitAll firsts recorded).users.veiled = (visitAll seconds recorded).users.veiled ∧
      (visitAll firsts recorded).users.Filed (lastGiven firsts recorded fun _ => none) ∧
      (visitAll seconds recorded).users.Filed (lastGiven seconds recorded fun _ => none) := by
  intro firsts seconds
  have signed : (signUp .plain "first").Alike (signUp blindHasher "another") := by
    refine ⟨rfl, rfl, ⟨rfl, rfl, blindHasher_alike⟩, .createUser (by decide +kernel) ?_⟩
    exact .of_toOption (by decide +kernel) (by decide +kernel)
  have renewed : (renew .plain "second").Alike (renew blindHasher "one more") := by
    have asked : (renew .plain "second").request.wish =
        some (.changeUser "00000000-0000-0000-0000-000000000001") := by decide +kernel
    refine ⟨rfl, rfl, ⟨rfl, rfl, blindHasher_alike⟩, .changeUser asked ?_⟩
    intro user read
    have written : readUuid? "00000000-0000-0000-0000-000000000001" = some (.ofNat 1) := by
      decide +kernel
    obtain rfl := Option.some.inj (written.symm.trans read)
    exact .of_toOption (by decide +kernel) (by decide +kernel)
  obtain ⟨-, same, unseen⟩ := passwords_unseen (.cons signed (.cons renewed .nil))
    (rfl : recorded.users.records = [])
  exact ⟨by decide +kernel, same (.cons (fun _ => rfl) (.cons (fun _ => rfl) .nil)), unseen⟩

/-- A password does show where it makes a body larger than is taken. -/
theorem signUp_too_large :
    let long := "a password that is longer than the whole body may be"
    (replies [signUp .plain "short"] recorded).map (·.status) = [201] ∧
      (replies [signUp .plain long] recorded).map (·.status) = [413] ∧
      ¬ ∀ password other : String, password ≠ "" → other ≠ "" →
        replies [signUp .plain password] recorded = replies [signUp .plain other] recorded := by
  intro long
  have taken : (replies [signUp .plain "short"] recorded).map (·.status) = [201] := by
    decide +kernel
  have refused : (replies [signUp .plain long] recorded).map (·.status) = [413] := by
    decide +kernel
  refine ⟨taken, refused, fun unseen => ?_⟩
  have same := unseen "short" long (by decide) (by decide)
  rw [same, refused] at taken
  exact absurd taken (by decide)

end Service

end Depot
