import Depot.Proofs.Events.Desk

/-!
# States that look alike

Behind a veil, a state shows who has a password hash but not the hash, and which calls were made but
not the password that a call was made with.  Two states look alike if they are the same behind it.
Actions look alike if, from states that look alike, they end alike and leave states that look alike;
this is closed under doing one thing after another.
-/

set_option autoImplicit false

namespace Depot

/-! ## Veils -/

/-- Only whether there is a hash is left to see. -/
def veiledHash (hash : Option String) : Option String := hash.map fun _ => ""

namespace Accounts

def User.veiled (user : User) : User := { user with passwordHash := veiledHash user.passwordHash }

def Users.veiled (users : Users) : Users := ⟨users.records.map User.veiled⟩

end Accounts

def Call.veiled : Call → Call
  | createUser user => createUser user.veiled
  | updateUser user => updateUser user.veiled
  | hashPassword _ => hashPassword ""
  | call => call

def State.veiled (state : State) : State :=
  { state with users := state.users.veiled, calls := state.calls.map Call.veiled }

/-- The calls made so far look alike. -/
def CallsAlike (one other : List Call) : Prop := one.map Call.veiled = other.map Call.veiled

/-- The states are the same behind the veil. -/
def State.Alike (first second : State) : Prop := first.veiled = second.veiled

/-- Two services that answer and fail alike, whatever they make of passwords. -/
structure Outside.Alike (first second : Outside) : Prop where
  mimeType : ∀ {calls others}, CallsAlike calls others → first.mimeType calls = second.mimeType others
  sides : ∀ {calls others}, CallsAlike calls others → first.sides calls = second.sides others
  transform : ∀ {calls others},
    CallsAlike calls others → first.transform calls = second.transform others
  recordFault : ∀ {calls others},
    CallsAlike calls others → first.recordFault calls = second.recordFault others
  backendFault : ∀ {calls others},
    CallsAlike calls others → first.backendFault calls = second.backendFault others

/-- The same surroundings, but for what the hasher makes of passwords. -/
structure Env.Alike (first second : Env) : Prop where
  now : first.now = second.now
  book : first.book = second.book
  outside : first.outside.Alike second.outside

theorem CallsAlike.cons {calls others : List Call} (alike : CallsAlike calls others)
    {call other : Call} (same : call.veiled = other.veiled) :
    CallsAlike (call :: calls) (other :: others) := by
  rw [CallsAlike, List.map_cons, List.map_cons, same, alike]

namespace State.Alike

variable {first second : State} (alike : first.Alike second)

include alike

theorem veiled : first.veiled = second.veiled := alike

theorem users : first.users.veiled = second.users.veiled := congrArg State.users alike.veiled

theorem files : first.files = second.files :=
  (congrArg State.files alike.veiled :)

theorem blobs : first.blobs = second.blobs :=
  (congrArg State.blobs alike.veiled :)

theorem accountEvents : first.accountEvents = second.accountEvents :=
  (congrArg State.accountEvents alike.veiled :)

theorem fileEvents : first.fileEvents = second.fileEvents :=
  (congrArg State.fileEvents alike.veiled :)

theorem calls : CallsAlike first.calls second.calls := congrArg State.calls alike.veiled

omit alike in
theorem intro (users : first.users.veiled = second.users.veiled)
    (files : first.files = second.files) (blobs : first.blobs = second.blobs)
    (accountEvents : first.accountEvents = second.accountEvents)
    (fileEvents : first.fileEvents = second.fileEvents)
    (calls : CallsAlike first.calls second.calls) : first.Alike second := by
  cases first
  cases second
  cases files
  cases blobs
  cases accountEvents
  cases fileEvents
  exact (State.mk.injEq ..).mpr ⟨users, rfl, rfl, rfl, rfl, calls⟩

theorem noted {call other : Call} (same : call.veiled = other.veiled) :
    (first.noted call).Alike (second.noted other) :=
  intro alike.users alike.files alike.blobs alike.accountEvents alike.fileEvents
    (alike.calls.cons same)

theorem withFiles (files : Files.Catalogue) :
    State.Alike { first with files } { second with files } :=
  intro alike.users rfl alike.blobs alike.accountEvents alike.fileEvents alike.calls

theorem withBlobs (blobs : Blobs.Store) : State.Alike { first with blobs } { second with blobs } :=
  intro alike.users alike.files rfl alike.accountEvents alike.fileEvents alike.calls

theorem withAccountEvents (accountEvents : Dispatcher Accounts.Topic AccountHandler Accounts.Event) :
    State.Alike { first with accountEvents } { second with accountEvents } :=
  intro alike.users alike.files alike.blobs rfl alike.fileEvents alike.calls

theorem withFileEvents (fileEvents : Dispatcher Files.Topic FileHandler Files.Event) :
    State.Alike { first with fileEvents } { second with fileEvents } :=
  intro alike.users alike.files alike.blobs alike.accountEvents rfl alike.calls

theorem withUsers {users others : Accounts.Users} (same : users.veiled = others.veiled) :
    State.Alike { first with users } { second with users := others } :=
  intro same alike.files alike.blobs alike.accountEvents alike.fileEvents alike.calls

end State.Alike

/-! ## Actions -/

namespace Act

variable {ε ε' α β γ δ : Type} {seen : α → β → Prop} {later : γ → δ → Prop}

/-- Both results are values that look alike, or both are the same failure. -/
inductive ResultsAlike (seen : α → β → Prop) : Except ε α → Except ε β → Prop
  | ok {value : α} {other : β} (same : seen value other) : ResultsAlike seen (.ok value) (.ok other)
  | error (failure : ε) : ResultsAlike seen (.error failure) (.error failure)

def EndsAlike (seen : α → β → Prop) (one : Except ε α × State) (other : Except ε β × State) : Prop :=
  ResultsAlike seen one.1 other.1 ∧ one.2.Alike other.2

/-- From states that look alike, two actions end alike. -/
def Alike (seen : α → β → Prop) (one : Act ε α) (other : Act ε β) : Prop :=
  ∀ first second : State, first.Alike second →
    EndsAlike seen (one.runOn first) (other.runOn second)

theorem ResultsAlike.refl (result : Except ε α) : ResultsAlike (· = ·) result result := by
  cases result with
  | error failure => exact .error failure
  | ok value => exact .ok rfl

theorem ResultsAlike.eq {one other : Except ε α} (alike : ResultsAlike (· = ·) one other) :
    one = other := by
  cases alike with
  | error failure => rfl
  | ok same => exact congrArg Except.ok same

theorem ResultsAlike.of_map {f : α → γ} {g : β → γ} {one : Except ε α} {other : Except ε β}
    (same : one.map f = other.map g) :
    ResultsAlike (fun value value' => f value = g value') one other := by
  cases one with
  | error failure =>
    cases other with
    | error failure' =>
      obtain rfl : failure = failure' := Except.error.inj same
      exact .error failure
    | ok value => cases same
  | ok value =>
    cases other with
    | error failure => cases same
    | ok value' => exact .ok (Except.ok.inj same)

theorem ResultsAlike.of_toOption {f : α → γ} {g : β → γ} {one : Except ε α} {other : Except ε β}
    (value : one.toOption.isSome) (same : one.toOption.map f = other.toOption.map g) :
    ResultsAlike (fun value value' => f value = g value') one other := by
  cases one with
  | error failure => cases value
  | ok value =>
    cases other with
    | error failure => cases same
    | ok value' => exact .ok (Option.some.inj same)

theorem Alike.pure {value : α} {other : β} (same : seen value other) :
    Alike seen (pure value : Act ε α) (pure other : Act ε β) := fun _ _ alike => ⟨.ok same, alike⟩

theorem Alike.throw (failure : ε) :
    Alike seen (throw failure : Act ε α) (throw failure : Act ε β) :=
  fun _ _ alike => ⟨.error failure, alike⟩

theorem Alike.ofExcept {result : Except ε α} {other : Except ε β}
    (same : ResultsAlike seen result other) : Alike seen (ofExcept result) (ofExcept other) :=
  fun _ _ alike => ⟨same, alike⟩

theorem Alike.getThe : Alike State.Alike (getThe State : Act ε State) (getThe State : Act ε State) :=
  fun _ _ alike => ⟨.ok alike, alike⟩

theorem Alike.set {first second : State} (alike : first.Alike second) :
    Alike (· = ·) (set first : Act ε PUnit) (set second : Act ε PUnit) :=
  fun _ _ _ => ⟨.ok rfl, alike⟩

theorem Alike.modifyThe {f g : State → State}
    (moved : ∀ {first second : State}, first.Alike second → (f first).Alike (g second)) :
    Alike (· = ·) (modifyThe State f : Act ε PUnit) (modifyThe State g : Act ε PUnit) :=
  fun _ _ alike => ⟨.ok rfl, moved alike⟩

theorem Alike.bind {one : Act ε α} {other : Act ε β} {next : α → Act ε γ} {next' : β → Act ε δ}
    (start : Alike seen one other)
    (rest : ∀ value value', seen value value' → Alike later (next value) (next' value')) :
    Alike later (one >>= next) (other >>= next') := by
  intro first second alike
  rw [runOn_bind, runOn_bind]
  have early := start first second alike
  generalize one.runOn first = ended at early ⊢
  generalize other.runOn second = ended' at early ⊢
  obtain ⟨result, after⟩ := ended
  obtain ⟨result', after'⟩ := ended'
  obtain ⟨results, states⟩ := early
  cases results with
  | error failure => exact ⟨.error failure, states⟩
  | ok same => exact rest _ _ same after after' states

theorem Alike.andThen {one other : Act ε α} {next : α → Act ε γ} {next' : α → Act ε δ}
    (start : Alike (· = ·) one other) (rest : ∀ value, Alike later (next value) (next' value)) :
    Alike later (one >>= next) (other >>= next') :=
  .bind start fun value _ same => same ▸ rest value

theorem Alike.map {one : Act ε α} {other : Act ε β} {f : α → γ} {g : β → δ}
    (start : Alike seen one other)
    (same : ∀ value value', seen value value' → later (f value) (g value')) :
    Alike later (f <$> one) (g <$> other) := by
  rw [map_eq_pure_bind, map_eq_pure_bind]
  exact .bind start fun value value' alike => .pure (same value value' alike)

theorem Alike.mapFailure (f : ε → ε') {one : Act ε α} {other : Act ε β}
    (start : Alike seen one other) : Alike seen (one.mapFailure f) (other.mapFailure f) := by
  intro first second alike
  rw [runOn_mapFailure, runOn_mapFailure]
  have early := start first second alike
  generalize one.runOn first = ended at early ⊢
  generalize other.runOn second = ended' at early ⊢
  obtain ⟨result, after⟩ := ended
  obtain ⟨result', after'⟩ := ended'
  obtain ⟨results, states⟩ := early
  cases results with
  | error failure => exact ⟨.error (f failure), states⟩
  | ok same => exact ⟨.ok same, states⟩

theorem Alike.outcome {one : Act ε α} {other : Act ε β} (start : Alike seen one other) :
    Alike (ResultsAlike seen) (one.outcome : Act ε' (Except ε α))
      (other.outcome : Act ε' (Except ε β)) :=
  fun first second alike => ⟨.ok (start first second alike).1, (start first second alike).2⟩

theorem Alike.note {fault fault' : List Call → Option ε} {call call' : Call}
    (faults : ∀ {calls others}, CallsAlike calls others → fault calls = fault' others)
    (same : call.veiled = call'.veiled) : Alike CallsAlike (note fault call) (note fault' call') := by
  intro first second alike
  have calls := alike.calls.cons same
  rw [runOn_note, runOn_note, faults calls]
  refine ⟨?_, alike.noted same⟩
  cases fault' (call' :: second.calls) with
  | some failure => exact .error failure
  | none => exact .ok calls

theorem Alike.forM {items : List α} {step step' : α → Act ε PUnit}
    (each : ∀ item ∈ items, Alike (· = ·) (step item) (step' item)) :
    Alike (· = ·) (items.forM step) (items.forM step') := by
  induction items with
  | nil => exact .pure rfl
  | cons item rest ih =>
    refine .andThen (each item (.head rest)) fun _ => ih ?_
    intro other member
    exact each other (.tail item member)

theorem Alike.deliver {T H E : Type} [DecidableEq T] {topicOf : E → T}
    {run run' : H → E → Act ε Unit} {dispatcher : Dispatcher T H E} {events : List E}
    (each : ∀ handler event, Alike (· = ·) (run handler event) (run' handler event)) :
    Alike (· = ·) (dispatcher.deliver topicOf run events) (dispatcher.deliver topicOf run' events) :=
  .forM fun event _ => .forM fun handler _ => each handler event

end Act

open Act

theorem Env.Alike.callRecords {first second : Env} (alike : first.Alike second) {call other : Call}
    (same : call.veiled = other.veiled) :
    Act.Alike (· = ·) (first.callRecords call) (second.callRecords other) :=
  .bind (.note alike.outside.recordFault same) fun _ _ _ => .pure rfl

/-! ## Desks -/

/-- A desk that lies before the veil. -/
structure Desk.Unveiled {T H E : Type} (desk : Desk T H E) : Prop where
  seen : ∀ {one other : State}, one.Alike other → desk.dispatcher one = desk.dispatcher other
  kept : ∀ {one other : State} dispatcher, one.Alike other →
    (desk.keep dispatcher one).Alike (desk.keep dispatcher other)

theorem accountDesk_unveiled : accountDesk.Unveiled :=
  ⟨fun alike => alike.accountEvents, fun kept alike => alike.withAccountEvents kept⟩

theorem fileDesk_unveiled : fileDesk.Unveiled :=
  ⟨fun alike => alike.fileEvents, fun kept alike => alike.withFileEvents kept⟩

namespace Desk.Unveiled

variable {ε T H E : Type} {desk : Desk T H E} (unveiled : desk.Unveiled)

include unveiled

theorem turn (change : Dispatcher T H E → Dispatcher T H E) :
    Alike (· = ·) (desk.turn change : Act ε Unit) (desk.turn change) := by
  apply Alike.modifyThe
  intro one other alike
  rw [unveiled.seen alike]
  exact unveiled.kept _ alike

theorem dispatch [DecidableEq T] {topicOf : E → T} {run run' : H → E → Act ε Unit}
    (each : ∀ handler event, Alike (· = ·) (run handler event) (run' handler event)) (id : Uuid) :
    Alike (· = ·) (desk.dispatch topicOf run id) (desk.dispatch topicOf run' id) := by
  refine .bind .getThe fun one other states => ?_
  rw [unveiled.seen states]
  exact .andThen (.set (unveiled.kept _ states)) fun _ => .deliver each

end Desk.Unveiled

end Depot
