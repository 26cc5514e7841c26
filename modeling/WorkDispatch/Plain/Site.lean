import WorkDispatch.Plain.Worker
import WorkDispatch.Site

/-!
The plain form of what can be seen of a site: of its coordinator, of its workers, and of what the one
knows of the others.
-/

set_option autoImplicit false

namespace WorkDispatch.Plain

open Json

def ofHealth (h : Coordinator.Health) : Json := .object
  [("status", .string h.status.display), ("total", ofNat h.totalWorkers),
   ("healthy", ofNat h.healthyWorkers),
   ("status_counts", .object (h.statusCounts.map fun (s, n) => (Named.name s, ofNat n))),
   ("queue_depth", ofNat h.queueDepth), ("queue_capacity", ofNat h.queueCapacity),
   ("services", ofLabels h.services.entries)]

/-- What is read from a stream. -/
def ofReading : Coordinator.Stream.Reading → Json
  | .delivery (.task t) => .object (ofTaskItem (.ofTask t))
  | .delivery (.status s) => .object [("status", ofStatus s (.string s.message))]
  | .empty => .string "empty"
  | .closed => .string "closed"
  | .dropped => .string "dropped"

def ofClient (c : Worker.Client Peer) : Json := .object
  [("state", Document.ofNamed c.phase), ("session", .bool c.session.isSome),
   ("counts", ofCounts c.counts), ("ai", ofAnalyst c.workshop.analyst),
   ("connected", .bool c.connection.isUsable),
   ("connectivity", Document.ofNamed c.connection.connectivity)]

/-- What the coordinator knows of a worker, without what the worker says of its process. -/
def seen? (s : Site) (workerId : String) : Option Json := do
  let c ← s.coordinator?
  let w := c.snapshot (← c.registry.get? workerId)
  let w := { w with stats := { w.stats with memoryUsageBytes := 0, uptimeSeconds := 0 } }
  some (.object (ofSnapshot w c.now))

/-- What can be waited for at a coordinator, of a worker of an id. -/
def observedAt (c : Coordinator) (workerId : String) : List (String × Json) :=
  let known := match c.registry.get? workerId with
    | some r =>
      let w := c.snapshot r
      [("streaming", .bool w.streaming), ("status", Document.ofNamed w.status),
       ("stats_completed", ofNat w.stats.completedTasks.toNat)]
    | none => [("streaming", .bool false)]
  known ++
    [("registered", .bool (c.registry.get? workerId).isSome),
     ("fresh", .bool (c.registry.isActiveAt workerId c.now)), ("queue_depth", ofNat c.queue.size)]

/-- What can be waited for of a worker. -/
def observedOf (c : Worker.Client Peer) : List (String × Json) :=
  [("state", Document.ofNamed c.phase), ("session", .bool c.session.isSome),
   ("connected", .bool c.connection.isUsable), ("active", ofNat c.counts.active),
   ("completed", ofNat c.counts.completed), ("failed", ofNat c.counts.failed),
   ("calls", ofNat c.workshop.analyst.calls)]

/-- What can be waited for at a site, of a worker of a name. -/
def observed (s : Site) (name : String) : List (String × Json) :=
  let worker := s.workers.get? name
  let id := (worker.map fun c => c.settings.workerId).getD name
  (worker.map observedOf).getD [] ++ (s.coordinator?.map fun c => observedAt c id).getD []

end WorkDispatch.Plain
