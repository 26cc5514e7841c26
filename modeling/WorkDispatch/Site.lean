import WorkDispatch.Connection.Dial
import WorkDispatch.Coordinator.Manager
import WorkDispatch.Coordinator.Service
import WorkDispatch.Worker.Client

/-!
A coordinator and workers at one place. A worker that reaches the coordinator talks to its service
directly; whether it does is for the surroundings to say. The coordinator can be stopped, and another
one started in its place, which knows nothing of the workers.
-/

set_option autoImplicit false

namespace WorkDispatch

/-- A worker's remote when the coordinator is at hand, or there is none. -/
abbrev Peer := Option Coordinator

namespace Peer

open Connection

/-- How a call of the service ends for the caller. -/
def reply {α : Type} (f : Coordinator → Coordinator.Service.Reply α) : Ask Peer α
  | none => (.refusal ⟨.unavailable, "no coordinator"⟩, none)
  | some c =>
    match f c with
    | (.ok a, c) => (.answer a, some c)
    | (.error s, c) => (.refusal s, some c)

/-- The coordinator as the worker of some settings meets it. -/
def remote (w : Surroundings) (s : Settings.Connection) (room : Nat) : Worker.Remote Peer where
  dial p := (dialFailure? w s, p)
  register m := reply fun c => Coordinator.Service.register c m
  heartbeat m := reply fun c => Coordinator.Service.heartbeat c m
  stream m := reply fun c => Coordinator.Service.stream c room m
  report m := reply fun c => Coordinator.Service.report c m

end Peer

structure Site where
  surroundings : Connection.Surroundings
  settings : Settings.Coordinator
  manager : Option Coordinator.Manager
  workers : Table (Worker.Client Peer)
  now : Instant

namespace Site

/-- A site without a coordinator and without workers. -/
def new (w : Connection.Surroundings) (s : Settings.Coordinator) (now : Instant) : Site :=
  ⟨w, s, none, .empty, now⟩

def coordinator? (s : Site) : Peer := s.manager.map Coordinator.Manager.coordinator

/-- The site with its coordinator changed, if it has one. -/
def withCoordinator (s : Site) (p : Peer) : Site :=
  match s.manager, p with
  | some m, some c => { s with manager := some { m with coordinator := c } }
  | _, _ => s

/-! ## The coordinator -/

/-- Starts a coordinator in place of any that there was. -/
def startCoordinator (s : Site) : Site := { s with manager := some (.new s.settings s.now) }

/-- Takes the coordinator away. -/
def stopCoordinator (s : Site) : Site := { s with manager := none }

/-- Asks something of the manager of the coordinator, if there is one. -/
def onManager {α : Type} (s : Site)
    (f : Coordinator.Manager → Except Failure (α × Coordinator.Manager)) :
    Option (Except Failure α) × Site :=
  match s.manager with
  | none => (none, s)
  | some m =>
    match f m with
    | .ok (a, m) => (some (.ok a), { s with manager := some m })
    | .error e => (some (.error e), s)

/-- Asks something of the coordinator, if there is one. -/
def onCoordinator {α : Type} (s : Site) (f : Coordinator → Except Failure (α × Coordinator)) :
    Option (Except Failure α) × Site :=
  s.onManager fun m => (f m.coordinator).map fun (a, c) => (a, { m with coordinator := c })

/-- Registers a worker of an id from elsewhere, so that the session that it has is void. -/
def usurp (s : Site) (workerId : String) : Option (Except Failure Coordinator.Grant) × Site :=
  s.onCoordinator fun c => c.register ⟨workerId, "intruder", .empty, "0", .empty⟩

/-! ## Workers -/

/-- Sets a worker up, in place of any of its name. -/
def add (s : Site) (name : String) (t : Settings) (a : Worker.Analyst) : Site :=
  { s with workers := s.workers.put name (.new t a s.now s.coordinator?) }

/-- Lets a worker do something, if there is one of the name. -/
def onWorker {α : Type} (s : Site) (name : String)
    (f : Worker.Remote Peer → Worker.Client Peer → α × Worker.Client Peer) : Option α × Site :=
  match s.workers.get? name with
  | none => (none, s)
  | some c =>
    let here := { c with line := { c.line with outside := s.coordinator? } }
    let (a, c) := f (Peer.remote s.surroundings c.settings.connection s.settings.streamBuffer) here
    (some a, { s.withCoordinator c.line.outside with workers := s.workers.put name c })

/-- Lets time pass on the calendar. -/
def wait (s : Site) (seconds : Nat) : Site :=
  let later : Span := .ofSeconds seconds
  { s.withCoordinator (s.coordinator?.map fun c => { c with now := c.now.plus later }) with
    now := s.now.plus later }

/-- Lets time pass on the timers. -/
def advance (s : Site) (t : Span) : Site :=
  { s.withCoordinator (s.coordinator?.map fun c => { c with elapsed := c.elapsed + t }.settle) with
    workers := s.workers.mapValues fun c =>
      { c with workshop := c.workshop.advance t, line := c.line.pass t } }

end Site

end WorkDispatch
