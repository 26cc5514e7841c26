import WorkDispatch.Document

/-!
How the coordinator is, as it answers a health check.
-/

set_option autoImplicit false

namespace WorkDispatch.Coordinator

/-- The coordinator's view of its workers and its queue. -/
structure Health where
  status : HealthStatus
  timestamp : Instant
  totalWorkers : Nat
  healthyWorkers : Nat
  /-- How many workers are in each status that any is in. -/
  statusCounts : List (WorkerStatus × Nat)
  queueDepth : Nat
  queueCapacity : Nat
  deriving DecidableEq

namespace Health

/-- The name under which the workers of a status are counted. -/
def countName (s : WorkerStatus) : String :=
  "workers_" ++ String.ofList ((Named.name s).toList.map Char.toLower)

/-- What the flat view says, one thing after the other. -/
def lines (h : Health) : List (String × String) :=
  [("coordinator", h.status.display), ("workers_total", toString h.totalWorkers),
   ("workers_healthy", toString h.healthyWorkers)] ++
  h.statusCounts.map (fun (s, n) => (countName s, toString n)) ++
  [("task_queue", toString h.queueDepth ++ "/" ++ toString h.queueCapacity)]

/-- The flat view that is sent over the wire. -/
def services (h : Health) : Labels := .ofList h.lines

open Json

def statusCounts? : Reader (List (WorkerStatus × Nat))
  | .object ms => ms.mapM fun m => do some ((← Named.ofName? m.1), (← asCount? 64 m.2))
  | _ => none

def ofJson? : Reader Health := fun doc => do
  let fs ← fields? ["status", "timestamp", "total_workers", "healthy_workers", "status_counts",
    "queue_depth", "queue_capacity"] doc
  some
    { status := ← fs.required "status" Document.named?
      timestamp := ← fs.required "timestamp" asInstant?
      totalWorkers := ← fs.required "total_workers" (asCount? 64)
      healthyWorkers := ← fs.required "healthy_workers" (asCount? 64)
      statusCounts := ← fs.required "status_counts" statusCounts?
      queueDepth := ← fs.required "queue_depth" (asCount? 64)
      queueCapacity := ← fs.required "queue_capacity" (asCount? 64) }

end Health

end WorkDispatch.Coordinator
