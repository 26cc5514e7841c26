import WorkDispatch.Failure
import WorkDispatch.Table
import WorkDispatch.Task
import WorkDispatch.Text.Blank

/-!
The registry of workers. A worker has one record from its first registration on; registering again
replaces it and the token that goes with it. What only the worker may do needs the token of its
latest registration, and an operation that is refused changes nothing.

A record may hold the number of a stream of tasks. Whether the worker still reads from the stream is
known elsewhere, and asked with `isOpen`.
-/

set_option autoImplicit false

namespace WorkDispatch.Coordinator

/-- How a worker introduces itself. -/
structure Registration where
  workerId : String
  workerName : String
  capabilities : CapabilitySet
  version : String
  metadata : Labels
  deriving DecidableEq

/-- What is known of a worker. -/
structure Record where
  registration : Registration
  token : String
  registeredAt : Instant
  lastHeartbeat : Instant
  status : WorkerStatus
  stats : WorkerStats
  /-- The stream that was opened for the worker last, until it is given up. -/
  stream : Option Nat
  deriving DecidableEq

namespace Record

def snapshot (r : Record) (isOpen : Nat → Bool) : WorkerSnapshot where
  workerId := r.registration.workerId
  workerName := r.registration.workerName
  capabilities := r.registration.capabilities
  version := r.registration.version
  metadata := r.registration.metadata
  registeredAt := r.registeredAt
  lastHeartbeat := r.lastHeartbeat
  status := r.status
  stats := r.stats
  streaming := match r.stream with
    | some s => isOpen s
    | none => false

/-- Whether the worker was heard of within the window. -/
def isActiveAt (r : Record) (window : Span) (now : Instant) : Bool :=
  now.since r.lastHeartbeat < window.nanoseconds

/-- Whether the worker was silent for as long as the window is. -/
def isStaleAt (r : Record) (window : Span) (now : Instant) : Bool :=
  window.nanoseconds ≤ now.since r.lastHeartbeat

end Record

/-- The workers, by their ids. -/
structure Registry where
  workers : Table Record
  /-- From this age of its last heartbeat on a worker counts as gone. -/
  window : Span

namespace Registry

/-- The longest window; in place of a longer one stand two minutes. -/
def longestWindow : Span := ⟨9223372036854775807000000⟩

/-- A registry without workers. -/
def empty (window : Span) : Registry :=
  ⟨.empty, if window ≤ longestWindow then window else .ofSeconds 120⟩

/-! ## What is asked of it -/

def get? (r : Registry) (id : String) : Option Record := r.workers.get? id

def all (r : Registry) : List Record := r.workers.values

def activeAt (r : Registry) (now : Instant) : List Record :=
  r.all.filter fun w => w.isActiveAt r.window now

def staleAt (r : Registry) (now : Instant) : List Record :=
  r.all.filter fun w => w.isStaleAt r.window now

def isActiveAt (r : Registry) (id : String) (now : Instant) : Bool :=
  match r.get? id with
  | some w => w.isActiveAt r.window now
  | none => false

/-- The record of a worker that shows its token. -/
def authenticate (r : Registry) (id token : String) : Except Failure Record :=
  match r.get? id with
  | none => .error (.notFound ("worker " ++ id ++ " not registered"))
  | some w =>
    if w.token = token then .ok w
    else .error (.unauthenticated ("invalid session token for worker " ++ w.registration.workerId))

/-! ## What changes it -/

/-- A worker registers, and is given a token. -/
def register (r : Registry) (g : Registration) (token : String) (now : Instant) :
    Except Failure Registry :=
  if Text.isAllBlank g.workerId then .error (.invalidArgument "worker_id is required")
  else if Text.isAllBlank g.workerName then .error (.invalidArgument "worker_name is required")
  else .ok { r with workers := r.workers.put g.workerId ⟨g, token, now, now, .idle, .none, none⟩ }

/-- A worker is heard of. The answer is what it said of itself before; a load that it does not report
stays as it was. -/
def heartbeat (r : Registry) (id token : String) (status : WorkerStatus)
    (stats : Option WorkerStats) (now : Instant) : Except Failure (WorkerStatus × Registry) :=
  match r.authenticate id token with
  | .error e => .error e
  | .ok w =>
    let heard := { w with lastHeartbeat := now, status, stats := stats.getD w.stats }
    .ok (w.status, { r with workers := r.workers.put id heard })

/-- A stream is opened for a worker, in place of an earlier one. -/
def attach (r : Registry) (id token : String) (stream : Nat) : Except Failure (Record × Registry) :=
  match r.authenticate id token with
  | .error e => .error e
  | .ok w =>
    let w := { w with stream := some stream }
    .ok (w, { r with workers := r.workers.put id w })

/-- A stream is given up, if it is still the one of the worker. -/
def detach (r : Registry) (id : String) (stream : Nat) : Registry :=
  match r.get? id with
  | some w =>
    if w.stream = some stream then
      { r with workers := r.workers.put id { w with stream := none } }
    else r
  | none => r

/-- Whether the worker of a record has gone away from its stream. -/
def hasLeft (isOpen : Nat → Bool) (w : Record) : Bool :=
  match w.stream with
  | some s => !isOpen s
  | none => false

/-- Gives up the streams whose workers have gone away, and says how many. -/
def prune (r : Registry) (isOpen : Nat → Bool) : Nat × Registry :=
  ((r.all.filter (hasLeft isOpen)).length,
    { r with workers := r.workers.mapValues fun w =>
        if hasLeft isOpen w then { w with stream := none } else w })

/-- Moves the last heartbeat of a worker so many nanoseconds into the past, and says whether there is
such a worker. There has to be such a point in time. -/
def backdate? (r : Registry) (id : String) (age : Int) (now : Instant) : Option (Bool × Registry) :=
  match r.get? id with
  | some w =>
    (now.after? (-age)).map fun t =>
      (true, { r with workers := r.workers.put id { w with lastHeartbeat := t } })
  | none => some (false, r)

end Registry

end WorkDispatch.Coordinator
