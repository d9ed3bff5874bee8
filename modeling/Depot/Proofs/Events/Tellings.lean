import Depot.Proofs.Accounts.Deletion
import Depot.Proofs.Events.Delivery

/-!
# Which handlers are told

A delivery follows its plan: for each event that waits for a record, in order, each handler of
its topic, in order.  It tells the handlers of the plan one after the other, up to and with
the first that fails, whose failure it ends with.  Whatever it ends with, nothing waits for
the record any more, and the dispatcher is otherwise as it was.  All of this holds of any
handlers, as long as they leave the dispatcher alone.
-/

set_option autoImplicit false

namespace Depot

open Act

namespace Dispatcher

variable {ε T H E : Type}

/-! ## Tellings -/

/-- Handlers are told of events, one after the other; each takes its event, unless it is the last
and fails. -/
inductive Tells (run : H → E → Act ε Unit) : List (H × E) → State → Except ε Unit → State → Prop
  | done (state : State) : Tells run [] state (.ok ()) state
  | failed {handler : H} {event : E} {state after : State} {failure : ε}
    (fails : (run handler event).runOn state = (.error failure, after)) :
    Tells run [(handler, event)] state (.error failure) after
  | next {handler : H} {event : E} {told : List (H × E)} {state middle after : State}
    {result : Except ε Unit} (takes : (run handler event).runOn state = (.ok (), middle))
    (others : Tells run told middle result after) :
    Tells run ((handler, event) :: told) state result after

/-- A telling that fails, where it is settled beforehand which do. -/
def fails (outcome : H → E → Except ε Unit) (telling : H × E) : Bool :=
  !(outcome telling.1 telling.2).isOk

/-- The part of a plan up to and with the first telling that fails. -/
def upToFailure (outcome : H → E → Except ε Unit) (planned : List (H × E)) : List (H × E) :=
  planned.takeWhile (!fails outcome ·) ++ (planned.find? (fails outcome)).toList

/-- The failure of the first telling that fails, if there is one. -/
def verdict (outcome : H → E → Except ε Unit) (planned : List (H × E)) : Except ε Unit :=
  (planned.find? (fails outcome)).elim (.ok ()) fun telling => outcome telling.1 telling.2

section Tells

variable {run : H → E → Act ε Unit} {planned told : List (H × E)} {state after : State}
  {result : Except ε Unit}

/-- To go through a plan is to tell a part of it from its start, all of it unless one fails. -/
theorem tells_of_forM
    (ran : (planned.forM fun telling => run telling.1 telling.2).runOn state = (result, after)) :
    ∃ told, told <+: planned ∧ Tells run told state result after ∧
      (result = .ok () → told = planned) := by
  induction planned generalizing state with
  | nil =>
    obtain ⟨rfl, rfl⟩ := Prod.mk.inj ran
    exact ⟨[], List.prefix_rfl, .done state, fun _ => rfl⟩
  | cons telling rest ih =>
    cases first : (run telling.1 telling.2).runOn state with
    | mk outcome middle =>
      cases outcome with
      | error failure =>
        have ended : (.error failure, middle) = (result, after) :=
          (runOn_bind_error first).symm.trans ran
        obtain ⟨rfl, rfl⟩ := Prod.mk.inj ended
        exact ⟨[telling], by simp, .failed first, fun bad => by cases bad⟩
      | ok _ =>
        obtain ⟨told, part, tells, whole⟩ := ih ((runOn_bind_ok first).symm.trans ran)
        exact ⟨telling :: told, by simpa using part, .next first tells,
          fun well => congrArg (telling :: ·) (whole well)⟩

theorem Tells.keeps {frame : Frame} (tells : Tells run told state result after)
    (each : ∀ telling ∈ told, (run telling.1 telling.2).Keeps frame) :
    frame.Allows state after := by
  induction tells with
  | done state => exact frame.stay state
  | failed fails => exact (each _ (.head _)).allows fails
  | next takes others ih =>
    have first := (each _ (.head _)).allows takes
    exact frame.chain first (ih fun telling member => each telling (.tail _ member))

/-- Where it is settled which tellings fail, it is settled what is told and how that ends. -/
theorem Tells.settled {outcome : H → E → Except ε Unit} (tells : Tells run told state result after)
    (part : told <+: planned) (whole : result = .ok () → told = planned)
    (decided : ∀ telling ∈ planned, ∀ state,
      ((run telling.1 telling.2).runOn state).1 = outcome telling.1 telling.2) :
    told = upToFailure outcome planned ∧ result = verdict outcome planned := by
  induction tells generalizing planned with
  | done state =>
    obtain rfl := whole rfl
    exact ⟨rfl, rfl⟩
  | @failed handler event state after failure failing =>
    obtain ⟨rest, rfl⟩ := part
    have settled := decided (handler, event) (by simp) state
    rw [failing] at settled
    have bad : fails outcome (handler, event) = true := by
      rw [fails, ← settled]
      rfl
    rw [upToFailure, verdict, List.singleton_append, List.find?_cons_of_pos bad,
      List.takeWhile_cons_of_neg (by simpa using bad)]
    exact ⟨rfl, settled⟩
  | @next handler event told state middle after result takes others ih =>
    obtain ⟨rest, rfl⟩ := part
    have settled := decided (handler, event) (by simp) state
    rw [takes] at settled
    have good : fails outcome (handler, event) = false := by
      rw [fails, ← settled]
      rfl
    obtain ⟨same, ended⟩ := @ih (told ++ rest) (List.prefix_append _ _)
      (fun well => (List.cons.inj (whole well)).2)
      fun telling member => decided telling (.tail _ member)
    rw [upToFailure, verdict, List.cons_append,
      List.find?_cons_of_neg (by simpa using good),
      List.takeWhile_cons_of_pos (by simpa using good), List.cons_append, ← upToFailure, ← verdict, ← same, ← ended]
    exact ⟨rfl, rfl⟩

end Tells

/-! ## Plans -/

section Plans

variable [DecidableEq T] {topicOf : E → T} {run : H → E → Act ε Unit}

theorem deliver_eq (dispatcher : Dispatcher T H E) (events : List E) :
    dispatcher.deliver topicOf run events =
      (dispatcher.plan topicOf events).forM fun telling => run telling.1 telling.2 := by
  induction events with
  | nil => rfl
  | cons event rest ih =>
    have first : dispatcher.deliver topicOf run (event :: rest) =
        ((dispatcher.handlersOf (topicOf event)).forM fun handler => run handler event) >>=
          fun _ => dispatcher.deliver topicOf run rest := rfl
    rw [first, ih, plan, plan, List.flatMap_cons]
    simp only [List.forM_eq_forM, List.forM_append, List.forM_map]

theorem mem_handlers_of_plan {dispatcher : Dispatcher T H E} {events : List E} {telling : H × E}
    (member : telling ∈ dispatcher.plan topicOf events) :
    ∃ entry ∈ dispatcher.handlers, entry.2 = telling.1 := by
  obtain ⟨event, -, here⟩ := List.mem_flatMap.1 member
  obtain ⟨handler, registered, rfl⟩ := List.mem_map.1 here
  exact mem_handlers_of_handlersOf registered

end Plans

/-! ## What is taken out -/

theorem dropFirst_eq_filter {pending : List (Uuid × List E)}
    (alone : (pending.map (·.1)).Nodup) (id : Uuid) :
    dropFirst id pending = pending.filter (·.1 ≠ id) := by
  induction pending with
  | nil => rfl
  | cons entry rest ih =>
    rw [List.map_cons, List.nodup_cons] at alone
    rw [dropFirst]
    by_cases here : entry.1 = id
    · have others : ∀ other ∈ rest, other.1 ≠ id := by
        rintro other member rfl
        exact alone.1 (here ▸ List.mem_map_of_mem member)
      rw [if_pos here, List.filter_cons_of_neg (by simpa using here),
        List.filter_eq_self.2 (by simpa using others)]
    · rw [if_neg here, List.filter_cons_of_pos (by simpa using here), ih alone.2]

theorem dropFirst_of_not_mem {pending : List (Uuid × List E)} {id : Uuid}
    (absent : id ∉ pending.map (·.1)) : dropFirst id pending = pending := by
  induction pending with
  | nil => rfl
  | cons entry rest ih =>
    rw [List.map_cons, List.mem_cons, not_or] at absent
    rw [dropFirst, if_neg (Ne.symm absent.1), ih absent.2]

end Dispatcher

/-! ## Deliveries from a desk -/

namespace Desk

variable {ε T H E : Type} (desk : Desk T H E)

/-- What is on the desk stays. -/
def still : Frame where
  Allows before after := desk.dispatcher after = desk.dispatcher before
  stay _ := rfl
  chain early late := late.trans early

/-- The state once the events of a record have been taken off the desk. -/
def released (id : Uuid) (state : State) : State :=
  desk.keep ((desk.dispatcher state).release id) state

/-- What is to be told of a record. -/
def planned [DecidableEq T] (topicOf : E → T) (id : Uuid) (state : State) : List (H × E) :=
  (desk.dispatcher state).plan topicOf ((desk.dispatcher state).waiting id)

/-- How a delivery ends and what it leaves. -/
structure Dispatched [DecidableEq T] (topicOf : E → T) (run : H → E → Act ε Unit) (id : Uuid)
    (state : State) (result : Except ε Unit) (after : State) : Prop where
  told : ∃ told, told <+: desk.planned topicOf id state ∧
    Dispatcher.Tells run told (desk.released id state) result after ∧
    (result = .ok () → told = desk.planned topicOf id state)
  settled : ∀ outcome : H → E → Except ε Unit,
    (∀ telling ∈ desk.planned topicOf id state, ∀ state,
      ((run telling.1 telling.2).runOn state).1 = outcome telling.1 telling.2) →
    Dispatcher.Tells run (Dispatcher.upToFailure outcome (desk.planned topicOf id state))
        (desk.released id state) result after ∧
      result = Dispatcher.verdict outcome (desk.planned topicOf id state)
  handlers : (desk.dispatcher after).handlers = (desk.dispatcher state).handlers
  pending : (desk.dispatcher after).pending = (desk.dispatcher state).pending.filter (·.1 ≠ id)
  /-- Nothing is told again. -/
  once : desk.planned topicOf id after = [] ∧
    ∀ again : H → E → Act ε Unit, (desk.dispatch topicOf again id).runOn after = (.ok (), after)

section Dispatch

variable [DecidableEq T] {topicOf : E → T} {run : H → E → Act ε Unit} {id : Uuid}
  {state after : State}

theorem runOn_dispatch :
    (desk.dispatch topicOf run id).runOn state =
      ((desk.planned topicOf id state).forM fun telling => run telling.1 telling.2).runOn
        (desk.released id state) := by
  rw [planned, ← Dispatcher.deliver_eq]
  rfl

theorem runOn_dispatch_of_not_mem
    (absent : id ∉ (desk.dispatcher state).pending.map (·.1)) :
    desk.planned topicOf id state = [] ∧
      (desk.dispatch topicOf run id).runOn state = (.ok (), state) := by
  have nothing : desk.planned topicOf id state = [] := by
    rw [planned, Dispatcher.waiting_eq, Dispatcher.held_of_not_mem absent]
    rfl
  have same : desk.released id state = state := by
    rw [released, Dispatcher.release, Dispatcher.dropFirst_of_not_mem absent]
    exact desk.keep_dispatcher state
  rw [runOn_dispatch, nothing, same]
  exact ⟨rfl, rfl⟩

theorem dispatched (alone : ((desk.dispatcher state).pending.map (·.1)).Nodup)
    (aside : ∀ entry ∈ (desk.dispatcher state).handlers, ∀ event,
      (run entry.2 event).Keeps desk.still) {result : Except ε Unit}
    (ran : (desk.dispatch topicOf run id).runOn state = (result, after)) :
    desk.Dispatched topicOf run id state result after := by
  rw [runOn_dispatch] at ran
  obtain ⟨told, part, tells, whole⟩ := Dispatcher.tells_of_forM ran
  have stays : desk.dispatcher after = (desk.dispatcher state).release id := by
    have kept : desk.still.Allows (desk.released id state) after := by
      refine tells.keeps fun telling member => ?_
      obtain ⟨entry, known, same⟩ := Dispatcher.mem_handlers_of_plan (part.subset member)
      rw [← same]
      exact aside entry known telling.2
    exact kept.trans (desk.dispatcher_keep _ _)
  have pending : (desk.dispatcher after).pending =
      (desk.dispatcher state).pending.filter (·.1 ≠ id) := by
    rw [stays]
    exact Dispatcher.dropFirst_eq_filter alone id
  refine ⟨⟨told, part, tells, whole⟩, fun outcome decided => ?_, by rw [stays]; rfl, pending, ?_⟩
  · obtain ⟨same, ended⟩ := tells.settled part whole decided
    exact ⟨same ▸ tells, ended⟩
  · have absent : id ∉ (desk.dispatcher after).pending.map (·.1) := by
      rw [pending]
      simp
    refine ⟨(@runOn_dispatch_of_not_mem ε T H E desk _ topicOf run id after absent).1, ?_⟩
    exact fun again => (desk.runOn_dispatch_of_not_mem absent).2

end Dispatch

end Desk

end Depot
