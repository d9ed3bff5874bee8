import Depot.Uuid

/-!
The dispatcher: which handlers want the events of a topic, and which events wait to be delivered.
Events wait per record, in the order in which they were handed over; delivery takes all events of
one record at once, so that each event is delivered at most once.

`deliver` is the delivery itself, in any setting in which a handler may act and fail; `plan` is the
list of deliveries it makes as long as no handler fails.
-/

namespace Depot

/-- Handlers by topic, in the order of registration, and the waiting events by record, in the order
in which the records began to wait. -/
structure Dispatcher (T H E : Type) where
  handlers : List (T × H) := []
  pending : List (Uuid × List E) := []

namespace Dispatcher

variable {T H E : Type}

def register (d : Dispatcher T H E) (topic : T) (handler : H) : Dispatcher T H E :=
  { d with handlers := d.handlers ++ [(topic, handler)] }

def handlersOf [DecidableEq T] (d : Dispatcher T H E) (topic : T) : List H :=
  (d.handlers.filter (·.1 = topic)).map (·.2)

def append (id : Uuid) (events : List E) : List (Uuid × List E) → List (Uuid × List E)
  | [] => [(id, events)]
  | (other, waiting) :: rest =>
    if other = id then (other, waiting ++ events) :: rest
    else (other, waiting) :: append id events rest

/-- Lets the events of a record wait. No events leave no trace. -/
def push (d : Dispatcher T H E) (id : Uuid) (events : List E) : Dispatcher T H E :=
  if events.isEmpty then d else { d with pending := append id events d.pending }

def enqueue (idOf : E → Uuid) (d : Dispatcher T H E) (events : List E) : Dispatcher T H E :=
  events.foldl (fun d event => d.push (idOf event) [event]) d

def waiting (d : Dispatcher T H E) (id : Uuid) : List E :=
  match d.pending.find? (·.1 = id) with
  | some (_, events) => events
  | none => []

def isPending (d : Dispatcher T H E) (id : Uuid) : Bool := d.pending.any (·.1 = id)

def dropFirst (id : Uuid) : List (Uuid × List E) → List (Uuid × List E)
  | [] => []
  | entry :: rest => if entry.1 = id then rest else entry :: dropFirst id rest

def release (d : Dispatcher T H E) (id : Uuid) : Dispatcher T H E :=
  { d with pending := dropFirst id d.pending }

/-- Delivers events in order, each to every handler of its topic in order, up to the first handler
that fails. -/
def deliver [DecidableEq T] {m : Type → Type} [Monad m] (topicOf : E → T) (run : H → E → m Unit)
    (d : Dispatcher T H E) (events : List E) : m Unit :=
  events.forM fun event => (d.handlersOf (topicOf event)).forM fun handler => run handler event

/-- The deliveries that a list of events asks for, in order. -/
def plan [DecidableEq T] (topicOf : E → T) (d : Dispatcher T H E) (events : List E) :
    List (H × E) :=
  events.flatMap fun event => (d.handlersOf (topicOf event)).map fun handler => (handler, event)

end Dispatcher

end Depot
