import WorkDispatch.Coordinator.Address
import WorkDispatch.Coordinator.Dispatch
import WorkDispatch.Job

/-!
The life of a coordinator that serves: it is started once, serves at an address until it is stopped,
and queues the jobs that the application has for it. What the host allows is given: whether it can
listen at an address and say where that is, which files it can read, and whether a server can be secured
with them.
-/

set_option autoImplicit false

namespace WorkDispatch.Coordinator

/-- What the host allows. -/
structure Host where
  /-- Where it listens when it was asked to listen at an address, or why it cannot. -/
  listen : String → Except String String
  /-- Why it cannot read a file, if it cannot. -/
  unreadable? : String → Option String
  /-- Why it cannot say where it listens, if it cannot. -/
  unlocated? : String → Option String := fun _ => none
  /-- Why no server can be secured with a certificate and a key that it can read, if none can. -/
  unsuited? : String → String → Option String := fun _ _ => none

/-- A coordinator and where it serves. -/
structure Manager where
  coordinator : Coordinator
  settings : Settings.Coordinator
  started : Bool
  stopped : Bool
  /-- Where it served last. -/
  address : Option String
  /-- Where its server is running. -/
  server : Option String

namespace Manager

def new (s : Settings.Coordinator) (now : Instant) : Manager :=
  ⟨.start s now, s, false, false, none, none⟩

/-- What is wrong with the files of a secured server, if anything. -/
def tlsProblem? (h : Host) (t : Settings.ServerTls) : Option Failure :=
  match t.certPath, t.keyPath with
  | some cert, some key =>
    let unread := [cert, key].findSome? fun path =>
      (h.unreadable? path).map fun why => .configuration ("cannot read " ++ path ++ ": " ++ why)
    unread.or ((h.unsuited? cert key).map .transport)
  | _, _ => some (.configuration "TLS enabled without cert_path and key_path")

/-- Where a server would run, or why it cannot. -/
def bind (h : Host) (s : Settings.Coordinator) : Except Failure String :=
  match h.listen s.bindAddress with
  | .error why => .error (.transport ("failed to bind " ++ s.bindAddress ++ ": " ++ why))
  | .ok a =>
    match h.unlocated? a with
    | some why => .error (.transport ("failed to read local address: " ++ why))
    | none =>
      match if s.tls.enabled then tlsProblem? h s.tls else none with
      | some e => .error e
      | none => .ok a

/-- Starts to serve, and says where. A manager that was started says where it served; one that could
not be started can be started again. -/
def start (m : Manager) (h : Host) : Except Failure String × Manager :=
  if m.started then
    (match m.address with
      | some a => .ok a
      | none => .error (.internal "coordinator manager is already starting"), m)
  else
    match bind h m.settings with
    | .error e => (.error e, m)
    | .ok a =>
      let server := if m.coordinator.isShuttingDown then none else some a
      (.ok a, { m with started := true, address := some a, server })

/-- Stops to serve, for good. Stopping again does nothing. -/
def stop (m : Manager) : Manager :=
  if m.stopped then m
  else { m with coordinator := m.coordinator.beginShutdown, stopped := true, server := none }

/-! ## Jobs -/

/-- Makes a task of a job, with a new identifier and a deadline some minutes ahead, and queues it. -/
def queueJob (m : Manager) (type : TaskType) (payload : Bytes) (priority : Int32) (minutes : Nat)
    (metadata : Labels) : Except Failure (String × Manager) :=
  let c := m.coordinator
  let id := Fresh.taskId c.supply
  let task : Task :=
    ⟨id, type, payload, priority, some (c.now.plus (.ofSeconds (minutes * 60))), metadata, c.now⟩
  match { c with supply := c.supply + 1 }.queueTask task with
  | .ok c => .ok (id, { m with coordinator := c })
  | .error e => .error e

def queueInsight (m : Manager) (j : InsightJob) : Except Failure (String × Manager) :=
  m.queueJob .insightGeneration j.encode 5 5
    (.ofList [("user_id", j.userId), ("insight_type", j.insightType)])

def queueWeekly (m : Manager) (j : WeeklyJob) : Except Failure (String × Manager) :=
  m.queueJob .weeklyReport j.encode 3 15 (.ofList [("user_id", j.userId)])

end Manager

end WorkDispatch.Coordinator
