import WorkDispatch.Coordinator.Health
import WorkDispatch.Coordinator.Registry
import WorkDispatch.Coordinator.Stream
import WorkDispatch.Fresh
import WorkDispatch.Settings.Basic

/-!
The coordinator: the workers that it knows, the queue of tasks, the streams to the workers, and the
results that came back. Each operation is what one caller does in one go, but for those that change
something and tell the waiting loops of it afterwards: `telling` counts the changes of which they
have not been told, and `heartbeats` holds the heartbeats that are half taken. `scan` holds the look at
the queue that is half taken.
-/

set_option autoImplicit false

namespace WorkDispatch

/-- A look at the queue that is under way. -/
structure Coordinator.Scan where
  /-- The stream whose loop looks. -/
  stream : Nat
  /-- How many tasks it has passed over. -/
  passed : Nat
  deriving DecidableEq

/-- The state of a coordinator. -/
structure Coordinator where
  registry : Coordinator.Registry
  queue : Queue
  /-- The look at the queue that is under way. Whoever looks has the queue to himself, so there is one
  at most, and a change of the queue comes before the whole of it. -/
  scan : Option Coordinator.Scan
  /-- All streams that were ever opened; the place of one is its number. -/
  streams : List Coordinator.Stream
  results : Table TaskResult
  heartbeatInterval : Span
  isShuttingDown : Bool
  /-- How many changes the waiting loops have not been told of. -/
  telling : Nat
  /-- Workers whose heartbeats are being taken, and whether each was active before. -/
  heartbeats : List (String × Bool)
  /-- The time of day. -/
  now : Instant
  /-- The time of timers. -/
  elapsed : Span
  /-- How many fresh names were given. -/
  supply : Nat

namespace Coordinator

/-- A coordinator that nothing has happened to. -/
def start (s : Settings.Coordinator) (now : Instant) : Coordinator where
  registry := .empty s.staleWorkerThreshold
  queue := .empty s.queueCapacity
  scan := none
  streams := []
  results := .empty
  heartbeatInterval := .ofSeconds s.heartbeatIntervalSeconds
  isShuttingDown := false
  telling := 0
  heartbeats := []
  now := now
  elapsed := .zero
  supply := 0

/-- Whether the worker of a stream is there to read. -/
def isOpen (c : Coordinator) (stream : Nat) : Bool :=
  match c.streams[stream]? with
  | some s => s.isOpen
  | none => false

def snapshot (c : Coordinator) (r : Record) : WorkerSnapshot := r.snapshot c.isOpen

/-- Changes a stream. -/
def modify (c : Coordinator) (stream : Nat) (f : Stream → Stream) : Coordinator :=
  { c with streams := c.streams.modify stream f }

/-- The waiting loops are told of a change. -/
def tellLoops (c : Coordinator) : Coordinator := { c with streams := c.streams.map Stream.tell }

/-! ## Workers -/

/-- What a worker is given when it registers. -/
structure Grant where
  token : String
  heartbeatInterval : Span
  deriving DecidableEq

def register (c : Coordinator) (g : Registration) : Except Failure (Grant × Coordinator) :=
  let token := Fresh.token c.supply
  match c.registry.register g token c.now with
  | .ok r => .ok (⟨token, c.heartbeatInterval⟩, { c with registry := r, supply := c.supply + 1 })
  | .error e => .error e

/-- The first half of taking a heartbeat: asks whether the worker is active. -/
def beginHeartbeat (c : Coordinator) (id : String) : Coordinator :=
  { c with heartbeats := c.heartbeats ++ [(id, c.registry.isActiveAt id c.now)] }

/-- The second half of taking the heartbeat at a place. The loops are to be told of a worker that was
not active. -/
def endHeartbeat (c : Coordinator) (place : Nat) (token : String) (status : WorkerStatus)
    (stats : Option WorkerStats) : Except Failure Unit × Coordinator :=
  match c.heartbeats[place]? with
  | none => (.ok (), c)
  | some (id, wasActive) =>
    let c := { c with heartbeats := c.heartbeats.eraseIdx place }
    match c.registry.heartbeat id token status stats c.now with
    | .error e => (.error e, c)
    | .ok (_, r) =>
      (.ok (), { c with registry := r, telling := if wasActive then c.telling else c.telling + 1 })

/-- Takes a heartbeat, both halves with nothing in between. -/
def heartbeat (c : Coordinator) (id token : String) (status : WorkerStatus)
    (stats : Option WorkerStats) : Except Failure Unit × Coordinator :=
  (c.beginHeartbeat id).endHeartbeat c.heartbeats.length token status stats

/-- Opens a stream for a worker; the answer is its number and what the worker can do. The worker has a
place to read from whether or not the stream is fed. -/
def openStream (c : Coordinator) (id token : String) (room : Nat) (announces : Bool) :
    Except Failure ((Nat × CapabilitySet) × Coordinator) :=
  let n := c.streams.length
  match c.registry.attach id token n with
  | .error e => .error e
  | .ok (w, r) =>
    let cs := w.registration.capabilities
    .ok ((n, cs), { c with
      registry := r
      streams := c.streams ++ [⟨id, cs, room, [], true, announces, .opened⟩] })

/-- Begins to feed a stream that was opened. -/
def feed (c : Coordinator) (stream : Nat) : Coordinator :=
  c.modify stream fun s => match s.phase with
    | .opened => { s with phase := .checking }
    | _ => s

/-- The worker of a stream goes away. -/
def closeStream (c : Coordinator) (stream : Nat) : Coordinator := c.modify stream Stream.close

/-- The worker of a stream reads. -/
def receive (c : Coordinator) (stream : Nat) : Stream.Reading × Coordinator :=
  match c.streams[stream]? with
  | none => (.dropped, c)
  | some s => (s.receive.1, c.modify stream fun _ => s.receive.2)

/-! ## Tasks -/

/-- Queues a task; the loops are to be told. -/
def queueTask (c : Coordinator) (t : Task) : Except Failure Coordinator :=
  if Text.isAllBlank t.id then .error (.invalidArgument "task_id is required")
  else
    match c.queue.enqueue t with
    | .ok (_, q) => .ok { c with queue := q, scan := none, telling := c.telling + 1 }
    | .error e => .error e

/-- A task leaves the queue with somebody who has no stream. -/
def take (c : Coordinator) (suits : Task → Bool) : Option Task × Coordinator :=
  let (t, q) := c.queue.take suits
  (t, { c with queue := q, scan := none })

/-- Keeps a result, in place of an earlier one of the same task. -/
def report (c : Coordinator) (r : TaskResult) : Except Failure Coordinator :=
  if Text.isAllBlank r.taskId then .error (.invalidArgument "task_id is required")
  else if Text.isAllBlank r.workerId then .error (.invalidArgument "worker_id is required")
  else .ok { c with results := c.results.put r.taskId r }

/-- The last result of a task. -/
def result? (c : Coordinator) (id : String) : Option TaskResult := c.results.get? id

/-! ## The whole -/

/-- How the coordinator is. -/
def health (c : Coordinator) : Health :=
  let workers := c.registry.all.map c.snapshot
  let isHealthy (w : WorkerSnapshot) : Bool := w.heartbeatAge c.now < c.registry.window.nanoseconds
  let healthy := (workers.filter isHealthy).length
  { status :=
      if workers.isEmpty then .noWorkers else if healthy = 0 then .degraded else .healthy
    timestamp := c.now
    totalWorkers := workers.length
    healthyWorkers := healthy
    statusCounts := ((Named.all (α := WorkerStatus)).map fun s =>
      (s, (workers.filter fun w => w.status == s).length)).filter fun p => p.2 != 0
    queueDepth := c.queue.size
    queueCapacity := c.queue.capacity }

/-- What was found when the coordinator looked after its workers. -/
structure Sweep where
  prunedStreams : Nat
  staleWorkers : List String
  queueDepth : Nat
  deriving DecidableEq

/-- Gives up streams whose workers have gone away. -/
def prune (c : Coordinator) : Nat × Coordinator :=
  let (n, r) := c.registry.prune c.isOpen
  (n, { c with registry := r })

/-- Looks after the workers. -/
def sweep (c : Coordinator) : Sweep × Coordinator :=
  let (n, c) := c.prune
  (⟨n, (c.registry.staleAt c.now).map (·.registration.workerId), c.queue.size⟩, c)

/-- Ends every loop in time. -/
def beginShutdown (c : Coordinator) : Coordinator := { c with isShuttingDown := true }

end Coordinator

end WorkDispatch
