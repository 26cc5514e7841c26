import WorkDispatch.Vocabulary

/-!
The life of a worker. A start goes through three phases, with a wait after each of the first two; a
shutdown is in a phase of its own while it waits for the executions. Both may be on their way at once,
and each sets the phase that it comes to. `Event` is everything that may happen, in any order; one
that cannot happen changes nothing.
-/

set_option autoImplicit false

namespace WorkDispatch.Worker

/-- What a worker is in the middle of. -/
inductive Phase
  | init | connecting | registering | running | shuttingDown | stopped
  deriving DecidableEq, Repr

instance : Named Phase where
  all := [.init, .connecting, .registering, .running, .shuttingDown, .stopped]
  name
    | .init => "INIT"
    | .connecting => "CONNECTING"
    | .registering => "REGISTERING"
    | .running => "RUNNING"
    | .shuttingDown => "SHUTTING_DOWN"
    | .stopped => "STOPPED"

/-- What a start waits for. -/
inductive Start
  | notBegun | connecting | registering | done
  deriving DecidableEq, Repr

structure Lifecycle where
  phase : Phase
  start : Start
  /-- How many shutdowns wait for the executions. -/
  draining : Nat
  deriving DecidableEq

namespace Lifecycle

/-- A worker that was not started. -/
def new : Lifecycle := ⟨.init, .notBegun, 0⟩

inductive Event
  /-- The start begins. -/
  | start
  /-- The start is connected, or cannot be. -/
  | connected (succeeded : Bool)
  /-- The start is registered, or cannot be. -/
  | registered (succeeded : Bool)
  /-- A shutdown begins. -/
  | shutdown
  /-- A shutdown has waited for the executions. -/
  | drained
  deriving DecidableEq

/-- Whether a shutdown has anything to do. -/
def canShutDown (l : Lifecycle) : Bool := l.phase != .shuttingDown && l.phase != .stopped

/-- What comes of an event. -/
def apply (l : Lifecycle) : Event → Lifecycle
  | .start =>
    if l.start = .notBegun ∨ l.start = .done then
      { l with phase := .connecting, start := .connecting }
    else l
  | .connected succeeded =>
    if l.start ≠ .connecting then l
    else if succeeded then { l with phase := .registering, start := .registering }
    else { l with phase := .stopped, start := .done }
  | .registered succeeded =>
    if l.start ≠ .registering then l
    else { l with phase := if succeeded then .running else .stopped, start := .done }
  | .shutdown =>
    if l.canShutDown then { l with phase := .shuttingDown, draining := l.draining + 1 } else l
  | .drained =>
    if 0 < l.draining then { l with phase := .stopped, draining := l.draining - 1 } else l

/-- What comes of events, one after the other. -/
def applyAll (l : Lifecycle) (es : List Event) : Lifecycle := es.foldl apply l

end Lifecycle

end WorkDispatch.Worker
