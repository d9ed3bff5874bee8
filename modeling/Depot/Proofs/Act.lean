import Depot.State

/-!
# Running actions

What an action does to a state, read off its parts, and frames: ways in which a
state may move on that are closed under doing one thing after another.  A frame
that every part of an action keeps is kept by the whole action, whether it ends
well or fails half-way.
-/

set_option autoImplicit false

namespace Depot

/-- A way in which a state may move on: staying is allowed, and so is moving
on from where an earlier move has led. -/
structure Frame where
  Allows : State → State → Prop
  stay : ∀ state, Allows state state
  chain : ∀ {first second third}, Allows first second → Allows second third → Allows first third

/-- The moves that do not break an invariant. -/
def Frame.preserving (Holds : State → Prop) : Frame where
  Allows before after := Holds before → Holds after
  stay _ := id
  chain first second := second ∘ first

namespace Act

variable {ε ε' α β : Type}

/-! ## Results and states -/

@[simp] theorem runOn_pure (value : α) (state : State) :
    (pure value : Act ε α).runOn state = (.ok value, state) := rfl

@[simp] theorem runOn_throw (failure : ε) (state : State) :
    (throw failure : Act ε α).runOn state = (.error failure, state) := rfl

theorem runOn_bind (act : Act ε α) (next : α → Act ε β) (state : State) :
    (act >>= next).runOn state =
      match act.runOn state with
      | (.ok value, after) => (next value).runOn after
      | (.error failure, after) => (.error failure, after) := by
  simp only [runOn, bind, ExceptT.bind, ExceptT.run, ExceptT.mk, StateT.run, StateT.bind]
  cases act state with
  | mk result after => cases result <;> rfl

theorem runOn_bind_ok {act : Act ε α} {next : α → Act ε β} {state after : State} {value : α}
    (ran : act.runOn state = (.ok value, after)) :
    (act >>= next).runOn state = (next value).runOn after := by
  rw [runOn_bind, ran]

theorem runOn_bind_error {act : Act ε α} {next : α → Act ε β} {state after : State}
    {failure : ε} (ran : act.runOn state = (.error failure, after)) :
    (act >>= next).runOn state = (.error failure, after) := by
  rw [runOn_bind, ran]

theorem runOn_bind_congr {act other : Act ε α} {state here : State}
    (same : act.runOn state = other.runOn here) (next : α → Act ε β) :
    (act >>= next).runOn state = (other >>= next).runOn here := by
  rw [runOn_bind, runOn_bind, same]

theorem of_bind_ok {act : Act ε α} {next : α → Act ε β} {state after : State} {value : β}
    (ran : (act >>= next).runOn state = (.ok value, after)) :
    ∃ first middle, act.runOn state = (.ok first, middle) ∧
      (next first).runOn middle = (.ok value, after) := by
  rw [runOn_bind] at ran
  cases start : act.runOn state with
  | mk result middle =>
    rw [start] at ran
    cases result with
    | error failure => simp at ran
    | ok first => exact ⟨first, middle, rfl, ran⟩

theorem of_bind_error {act : Act ε α} {next : α → Act ε β} {state after : State} {failure : ε}
    (ran : (act >>= next).runOn state = (.error failure, after)) :
    act.runOn state = (.error failure, after) ∨ ∃ first middle,
      act.runOn state = (.ok first, middle) ∧
        (next first).runOn middle = (.error failure, after) := by
  rw [runOn_bind] at ran
  cases start : act.runOn state with
  | mk result middle =>
    rw [start] at ran
    cases result with
    | error early =>
      rw [Prod.mk.injEq, Except.error.injEq] at ran
      obtain ⟨rfl, rfl⟩ := ran
      exact .inl rfl
    | ok first => exact .inr ⟨first, middle, rfl, ran⟩

theorem bind_cases {ended : Except ε β × State → Prop} {act : Act ε α} {next : α → Act ε β}
    {state : State}
    (fails : ∀ failure middle, act.runOn state = (.error failure, middle) →
      ended (.error failure, middle))
    (goes : ∀ value middle, act.runOn state = (.ok value, middle) →
      ended ((next value).runOn middle)) :
    ended ((act >>= next).runOn state) := by
  rw [runOn_bind]
  cases ran : act.runOn state with
  | mk result middle =>
    cases result with
    | error failure => exact fails failure middle ran
    | ok value => exact goes value middle ran

/-- Whatever the result, the state that is left is such. -/
def Leaves (Holds : State → Prop) (ended : Except ε α × State) : Prop := Holds ended.2

@[simp] theorem runOn_map (f : α → β) (act : Act ε α) (state : State) :
    (f <$> act).runOn state = ((act.runOn state).1.map f, (act.runOn state).2) := by
  rw [map_eq_pure_bind, runOn_bind]
  cases act.runOn state with
  | mk result after => cases result <;> rfl

theorem of_map_error {f : α → β} {act : Act ε α} {state after : State} {failure : ε}
    (ran : (f <$> act).runOn state = (.error failure, after)) :
    act.runOn state = (.error failure, after) := by
  rw [map_eq_pure_bind] at ran
  rcases of_bind_error ran with failed | ⟨value, middle, -, bad⟩
  · exact failed
  · cases bad

@[simp] theorem mapError_error (f : ε → ε') (failure : ε) :
    (.error failure : Except ε α).mapError f = .error (f failure) := rfl

@[simp] theorem mapError_ok (f : ε → ε') (value : α) :
    (.ok value : Except ε α).mapError f = .ok value := rfl

@[simp] theorem runOn_mapFailure (f : ε → ε') (act : Act ε α) (state : State) :
    (act.mapFailure f).runOn state =
      ((act.runOn state).1.mapError f, (act.runOn state).2) := rfl

theorem runOn_mapFailure_ok {act : Act ε α} {f : ε → ε'} {state after : State} {value : α}
    (ran : act.runOn state = (.ok value, after)) :
    (act.mapFailure f).runOn state = (.ok value, after) := by
  rw [runOn_mapFailure, ran]
  rfl

theorem of_mapFailure_ok {act : Act ε α} {f : ε → ε'} {state after : State} {value : α}
    (ran : (act.mapFailure f).runOn state = (.ok value, after)) :
    act.runOn state = (.ok value, after) := by
  rw [runOn_mapFailure] at ran
  cases start : act.runOn state with
  | mk result middle =>
    rw [start] at ran
    cases result with
    | error failure => simp at ran
    | ok first => simpa using ran

theorem of_mapFailure_error {act : Act ε α} {f : ε → ε'} {state after : State} {failure : ε'}
    (ran : (act.mapFailure f).runOn state = (.error failure, after)) :
    ∃ cause, act.runOn state = (.error cause, after) ∧ failure = f cause := by
  rw [runOn_mapFailure] at ran
  cases start : act.runOn state with
  | mk result middle =>
    rw [start, Prod.mk.injEq] at ran
    obtain ⟨failed, rfl⟩ := ran
    cases result with
    | error cause => exact ⟨cause, rfl, (Except.error.inj failed).symm⟩
    | ok first => cases failed

@[simp] theorem runOn_outcome (act : Act ε α) (state : State) :
    (act.outcome : Act ε' (Except ε α)).runOn state =
      (.ok (act.runOn state).1, (act.runOn state).2) := rfl

theorem of_outcome_ok {act : Act ε α} {state after : State} {result : Except ε α}
    (ran : (act.outcome : Act ε' (Except ε α)).runOn state = (.ok result, after)) :
    act.runOn state = (result, after) := by
  rw [runOn_outcome, Prod.mk.injEq, Except.ok.injEq] at ran
  exact Prod.ext ran.1 ran.2

@[simp] theorem runOn_ofExcept (result : Except ε α) (state : State) :
    (ofExcept result).runOn state = (result, state) := rfl

@[simp] theorem runOn_getThe (state : State) :
    (getThe State : Act ε State).runOn state = (.ok state, state) := rfl

@[simp] theorem runOn_set (state after : State) :
    (set after : Act ε PUnit).runOn state = (.ok ⟨⟩, after) := rfl

theorem runOn_note (fault : List Call → Option ε) (call : Call) (state : State) :
    (note fault call).runOn state =
      (match fault (call :: state.calls) with
        | some failure => .error failure
        | none => .ok (call :: state.calls),
      { state with calls := call :: state.calls }) := by
  simp only [note, runOn_bind, runOn_getThe, runOn_set]
  cases fault (call :: state.calls) <;> rfl

theorem forM_ok {items : List β} {step : β → Act ε PUnit} {Holds : List β → State → Prop}
    (each : ∀ done item, item ∈ items → ∀ state, Holds done state →
      ∃ after, (step item).runOn state = (.ok ⟨⟩, after) ∧ Holds (done ++ [item]) after)
    {state : State} {done : List β} (start : Holds done state) :
    ∃ after, (items.forM step).runOn state = (.ok ⟨⟩, after) ∧ Holds (done ++ items) after := by
  induction items generalizing state done with
  | nil => exact ⟨state, rfl, by rwa [List.append_nil]⟩
  | cons item rest ih =>
    obtain ⟨middle, first, held⟩ := each done item (.head rest) state start
    obtain ⟨after, others, last⟩ := ih (fun sofar other member => each sofar other (.tail _ member)) held
    refine ⟨after, (runOn_bind_ok first).trans others, ?_⟩
    rwa [List.append_assoc, List.singleton_append] at last

/-! ## Frames -/

/-- Whatever an action does to a state, a frame allows it. -/
def Keeps (frame : Frame) (act : Act ε α) : Prop :=
  ∀ state, frame.Allows state (act.runOn state).2

variable {frame : Frame}

theorem Keeps.allows {act : Act ε α} (kept : act.Keeps frame) {state after : State}
    {result : Except ε α} (ran : act.runOn state = (result, after)) : frame.Allows state after := by
  have moved := kept state
  rw [ran] at moved
  exact moved

theorem Keeps.pure (value : α) : (pure value : Act ε α).Keeps frame := frame.stay

theorem Keeps.throw (failure : ε) : (throw failure : Act ε α).Keeps frame := frame.stay

theorem Keeps.ofExcept (result : Except ε α) : (ofExcept result).Keeps frame := frame.stay

theorem Keeps.getThe : (getThe State : Act ε State).Keeps frame := frame.stay

/-- What follows only has to keep the frame for values that the first part can give. -/
theorem Keeps.bind_given {act : Act ε α} {next : α → Act ε β} (first : act.Keeps frame)
    (second : ∀ value state after, act.runOn state = (.ok value, after) →
      (next value).Keeps frame) : (act >>= next).Keeps frame := by
  intro state
  rw [runOn_bind]
  have moved := first state
  cases ran : act.runOn state with
  | mk result after =>
    rw [ran] at moved
    cases result with
    | error failure => exact moved
    | ok value => exact frame.chain moved (second value state after ran after)

theorem Keeps.bind {act : Act ε α} {next : α → Act ε β} (first : act.Keeps frame)
    (second : ∀ value, (next value).Keeps frame) : (act >>= next).Keeps frame :=
  .bind_given first fun value _ _ _ => second value

theorem Keeps.map {act : Act ε α} (f : α → β) (kept : act.Keeps frame) :
    (f <$> act).Keeps frame := by
  intro state
  rw [runOn_map]
  exact kept state

theorem Keeps.mapFailure {act : Act ε α} (f : ε → ε') (kept : act.Keeps frame) :
    (act.mapFailure f).Keeps frame := kept

theorem Keeps.outcome {act : Act ε α} (kept : act.Keeps frame) :
    (act.outcome : Act ε' (Except ε α)).Keeps frame := kept

theorem Keeps.noting {fault : List Call → Option ε} {call : Call}
    (noted : ∀ state, frame.Allows state { state with calls := call :: state.calls }) :
    (note fault call).Keeps frame := by
  intro state
  rw [runOn_note]
  exact noted state

theorem Keeps.modifyThe {f : State → State} (moved : ∀ state, frame.Allows state (f state)) :
    (modifyThe State f : Act ε PUnit).Keeps frame := moved

theorem Keeps.forM {items : List β} {step : β → Act ε PUnit}
    (each : ∀ item ∈ items, (step item).Keeps frame) : (items.forM step).Keeps frame := by
  induction items with
  | nil => exact .pure _
  | cons item rest ih =>
    exact .bind (each item (.head rest)) fun _ => ih fun other member =>
      each other (.tail item member)

/-- Delivery does what the handlers do that are registered for the topics of the events. -/
theorem Keeps.deliver {T H E : Type} [DecidableEq T] {topicOf : E → T} {run : H → E → Act ε Unit}
    {dispatcher : Dispatcher T H E} {events : List E}
    (each : ∀ event ∈ events, ∀ handler ∈ dispatcher.handlersOf (topicOf event),
      (run handler event).Keeps frame) :
    (dispatcher.deliver topicOf run events).Keeps frame :=
  .forM fun event waits => .forM fun handler registered => each event waits handler registered

end Act

end Depot
