import Depot.Proofs.Calls

/-!
# Where dispatchers are kept

The dispatchers of accounts and of files lie in two places of the state, and are worked on in the
same ways: events are handed over, and those of a record are taken away and told.  What these ways
leave alone is told here for any such place.
-/

set_option autoImplicit false

namespace Depot

open Act

variable {ε T H E : Type}

namespace Dispatcher

@[simp] theorem push_handlers (dispatcher : Dispatcher T H E) (id : Uuid) (events : List E) :
    (dispatcher.push id events).handlers = dispatcher.handlers := by
  unfold push
  split <;> rfl

@[simp] theorem enqueue_handlers (idOf : E → Uuid) (dispatcher : Dispatcher T H E)
    (events : List E) : (dispatcher.enqueue idOf events).handlers = dispatcher.handlers := by
  induction events generalizing dispatcher with
  | nil => rfl
  | cons event rest ih => exact (ih _).trans (push_handlers dispatcher _ _)

theorem handlersOf_congr [DecidableEq T] {dispatcher other : Dispatcher T H E}
    (same : other.handlers = dispatcher.handlers) (topic : T) :
    other.handlersOf topic = dispatcher.handlersOf topic := by
  rw [handlersOf, handlersOf, same]

end Dispatcher

/-- A place of the state where a dispatcher is kept. -/
structure Desk (T H E : Type) where
  dispatcher : State → Dispatcher T H E
  keep : Dispatcher T H E → State → State
  dispatcher_keep : ∀ kept state, dispatcher (keep kept state) = kept
  keep_dispatcher : ∀ state, keep (dispatcher state) state = state

namespace Desk

variable (desk : Desk T H E)

def turn (change : Dispatcher T H E → Dispatcher T H E) : Act ε Unit :=
  modifyThe State fun state => desk.keep (change (desk.dispatcher state)) state

/-- Delivers the events that wait for a record, to handlers that act in a given way. -/
def dispatch [DecidableEq T] (topicOf : E → T) (run : H → E → Act ε Unit) (id : Uuid) :
    Act ε Unit := do
  let state ← getThe State
  let waiting := (desk.dispatcher state).waiting id
  set (desk.keep ((desk.dispatcher state).release id) state)
  (desk.dispatcher state).deliver topicOf run waiting

end Desk

def accountDesk : Desk Accounts.Topic AccountHandler Accounts.Event where
  dispatcher := State.accountEvents
  keep kept state := { state with accountEvents := kept }
  dispatcher_keep _ _ := rfl
  keep_dispatcher _ := rfl

def fileDesk : Desk Files.Topic FileHandler Files.Event where
  dispatcher := State.fileEvents
  keep kept state := { state with fileEvents := kept }
  dispatcher_keep _ _ := rfl
  keep_dispatcher _ := rfl

/-- The frame admits that events on a desk are handed over, and that they are told by given calls. -/
structure Frame.AdmitsEvents (frame : Frame) (desk : Desk T H E) (telling : String → E → Call) :
    Prop where
  tell : ∀ state name event, frame.Allows state (state.noted (telling name event))
  turn : ∀ state kept, kept.handlers = (desk.dispatcher state).handlers →
    frame.Allows state (desk.keep kept state)

abbrev Frame.AdmitsAccountEvents (frame : Frame) : Prop :=
  frame.AdmitsEvents accountDesk .handledAccount

abbrev Frame.AdmitsFileEvents (frame : Frame) : Prop :=
  frame.AdmitsEvents fileDesk .handledFile

namespace Frame.AdmitsEvents

variable {frame : Frame} {desk : Desk T H E} {telling : String → E → Call}
  (events : frame.AdmitsEvents desk telling)

include events

theorem keeps_turn {change : Dispatcher T H E → Dispatcher T H E}
    (handlers : ∀ dispatcher, (change dispatcher).handlers = dispatcher.handlers) :
    (desk.turn change : Act ε Unit).Keeps frame :=
  .modifyThe fun state => events.turn state _ (handlers _)

theorem keeps_dispatch [DecidableEq T] {topicOf : E → T} {run : H → E → Act ε Unit}
    (handles : ∀ handler event, (run handler event).Keeps frame) (id : Uuid) :
    (desk.dispatch topicOf run id).Keeps frame := by
  intro state
  have delivered : Act.Keeps frame ((desk.dispatcher state).deliver topicOf run
      ((desk.dispatcher state).waiting id)) :=
    .deliver fun event _ handler _ => handles handler event
  exact frame.chain (events.turn state ((desk.dispatcher state).release id) rfl) (delivered _)

end Frame.AdmitsEvents

end Depot
