import WorkDispatch.Bits
import WorkDispatch.Coordinator.Basic
import WorkDispatch.Wire.Convert

/-!
The calls that workers make. Each takes a message, and answers with a message or with the status that
the failure amounts to. Numbers that name nothing are read as unspecified.
-/

set_option autoImplicit false

namespace WorkDispatch.Coordinator.Service

open Wire

/-- What a call comes to: its answer, and the coordinator after it. -/
abbrev Reply (α : Type) := Except Status α × Coordinator

/-- A whole number of seconds, or the most that the message holds. -/
def clampSeconds (s : Span) : Int32 := Int32.ofInt (min s.secs (Bits.count31 - 1) : Nat)

/-- The greatest count of workers that the message holds, or the count. -/
def clampCount (n : Nat) : Int32 := Int32.ofInt (min n (Bits.count31 - 1) : Nat)

def registrationOf (r : RegisterRequest) : Registration :=
  ⟨r.workerId, r.workerName, capabilitiesOf r.capabilities, r.version, r.metadata⟩

def register (c : Coordinator) (r : RegisterRequest) : Reply RegisterResponse :=
  match c.register (registrationOf r) with
  | .ok (g, c) => (.ok ⟨true, "worker registered", g.token, clampSeconds g.heartbeatInterval⟩, c)
  | .error e => (.error e.toStatus, c)

def heartbeat (c : Coordinator) (r : HeartbeatRequest) : Reply HeartbeatResponse :=
  match c.heartbeat r.workerId r.sessionToken (workerStatusOf r.status) (r.stats.map Stats.toStats) with
  | (.ok (), c) => (.ok ⟨true, "heartbeat acknowledged", some (.ofInstant c.now)⟩, c)
  | (.error e, c) => (.error e.toStatus, c)

/-- Opens a stream and begins to feed it; the answer is its number. What the worker says that it can do
is not asked again. -/
def stream (c : Coordinator) (room : Nat) (r : StreamRequest) : Reply Nat :=
  if c.isShuttingDown then (.error ⟨.unavailable, "coordinator is shutting down"⟩, c)
  else
    match c.openStream r.workerId r.sessionToken (max room 1) true with
    | .ok ((n, _), c) => (.ok n, c.feed n)
    | .error e => (.error e.toStatus, c)

def report (c : Coordinator) (r : ResultRequest) : Reply ResultResponse :=
  match c.report r.toResult with
  | .ok c => (.ok ⟨true, "result for task " ++ r.taskId ++ " recorded"⟩, c)
  | .error e => (.error e.toStatus, c)

/-- Progress is taken note of and changes nothing. -/
def progress (c : Coordinator) (_ : ProgressUpdate) : Reply Nothing := (.ok ⟨⟩, c)

def health (c : Coordinator) : Reply HealthResponse :=
  let h := c.health
  (.ok ⟨h.status.display, some (.ofInstant h.timestamp), h.services, clampCount h.healthyWorkers⟩, c)

end WorkDispatch.Coordinator.Service
