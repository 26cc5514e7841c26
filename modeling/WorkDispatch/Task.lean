import WorkDispatch.CapabilitySet
import WorkDispatch.Labels
import WorkDispatch.Text.Utf8
import WorkDispatch.Time.Instant

/-!
Tasks and what becomes of them. A task's priority and deadline travel with it; whether a deadline
has passed is for the worker to ask.
-/

set_option autoImplicit false

namespace WorkDispatch

/-- A unit of work. -/
structure Task where
  id : String
  type : TaskType
  payload : Bytes
  priority : Int32
  deadline : Option Instant
  metadata : Labels
  createdAt : Instant
  deriving DecidableEq

namespace Task

/-- A task with nothing set but what it is. -/
def plain (id : String) (type : TaskType) (payload : Bytes) (now : Instant) : Task :=
  ⟨id, type, payload, 0, none, .empty, now⟩

/-- A deadline has passed from the moment that it names. -/
def isPastDeadline (t : Task) (now : Instant) : Bool :=
  match t.deadline with
  | some d => d ≤ now
  | none => false

end Task

/-- How a task ended, as a worker reported it. -/
structure TaskResult where
  taskId : String
  workerId : String
  status : TaskStatus
  result : Bytes
  errorMessage : String
  startedAt : Option Instant
  completedAt : Option Instant
  deriving DecidableEq

namespace TaskResult

/-- How many nanoseconds the task took, when both ends are known. -/
def duration? (r : TaskResult) : Option Int :=
  match r.startedAt, r.completedAt with
  | some s, some c => some (c.since s)
  | _, _ => none

/-- The result as text, whatever its bytes. -/
def text (r : TaskResult) : String := Text.ofUtf8Lossy r.result

end TaskResult

/-- The load that a worker reports, and the health of what it depends on. -/
structure WorkerStats where
  activeTasks : UInt32
  completedTasks : UInt64
  failedTasks : UInt64
  memoryUsageBytes : UInt64
  uptimeSeconds : UInt64
  serviceHealth : Labels
  deriving DecidableEq

/-- The load of a worker that has reported none. -/
def WorkerStats.none : WorkerStats := ⟨0, 0, 0, 0, 0, .empty⟩

instance : Inhabited WorkerStats := ⟨.none⟩

/-- What the coordinator knows of a worker. -/
structure WorkerSnapshot where
  workerId : String
  workerName : String
  capabilities : CapabilitySet
  version : String
  metadata : Labels
  registeredAt : Instant
  lastHeartbeat : Instant
  status : WorkerStatus
  stats : WorkerStats
  streaming : Bool
  deriving DecidableEq

/-- Nanoseconds since the worker was last heard of. -/
def WorkerSnapshot.heartbeatAge (w : WorkerSnapshot) (now : Instant) : Int :=
  now.since w.lastHeartbeat

end WorkDispatch
