import WorkDispatch.Connection.Line
import WorkDispatch.Wire.Convert
import WorkDispatch.Worker.Lifecycle
import WorkDispatch.Worker.Workshop

/-!
A worker: its connection, its executions, and the session that the coordinator gave it. It registers
behind a breaker of its own, and every call is tried again as its connection's policy says. What the
coordinator answers is given (`Remote`).
-/

set_option autoImplicit false

namespace WorkDispatch.Worker

open Connection

/-- What becomes of dials to the coordinator, and of calls to it. -/
structure Remote (σ : Type) where
  dial : Dial σ
  register : Wire.RegisterRequest → Ask σ Wire.RegisterResponse
  heartbeat : Wire.HeartbeatRequest → Ask σ Wire.HeartbeatResponse
  /-- The answer is the number of the stream. -/
  stream : Wire.StreamRequest → Ask σ Nat
  report : Wire.ResultRequest → Ask σ Wire.ResultResponse

structure Client (σ : Type) where
  settings : Settings.Worker
  line : Line σ
  workshop : Workshop
  /-- The breaker before registrations. -/
  registration : Breaker
  /-- The token of the session. -/
  session : Option String
  lifecycle : Lifecycle

namespace Client

variable {σ : Type}

/-- A worker that was not started. -/
def new (s : Settings) (a : Analyst) (date : Instant) (outside : σ)
    (complaint : TaskType → Bytes → String := fun _ _ => "") : Client σ :=
  let w := s.worker
  let executor := Executor.new w.workerId w.taskTimeout s.breakers.taskProcessing.toConfig complaint
  { settings := w
    line := ⟨.new w.connection s.breakers.connection.toConfig, s.retry.toPolicy, .zero, 0, outside⟩
    workshop := .new executor a .zero date
    registration := .new "registration" s.breakers.registration.toConfig
    session := none
    lifecycle := .new }

def connection (c : Client σ) : Connection := c.line.connection

def phase (c : Client σ) : Phase := c.lifecycle.phase

/-- Whether the worker stops. -/
def isStopping (c : Client σ) : Bool := c.workshop.cancelled

def counts (c : Client σ) : Counts := c.workshop.executor.book.counts

def live (c : Client σ) (e : Lifecycle.Event) : Client σ :=
  { c with lifecycle := c.lifecycle.apply e }

/-- Does something with the connection. -/
def onLine {α : Type} (f : Line σ → α × Line σ) (c : Client σ) : α × Client σ :=
  let (a, line) := f c.line
  (a, { c with line })

/-- Makes a call, which is not tried again once the worker stops. -/
def call {α : Type} (operation : String) (r : Remote σ) (f : Ask σ α) (c : Client σ) :
    Except Failure α × Client σ :=
  c.onLine (Line.call operation c.isStopping r.dial f)

/-! ## The session -/

/-- The breaker before registrations, and the clock. -/
def place : Breaker.Place (Client σ) where
  get := registration
  set b c := { c with registration := b, line := c.line.pass ⟨1000⟩ }
  now c := c.line.now

def wireCapabilities (c : Client σ) : List Int32 :=
  Wire.capabilityNumbers (.ofList c.settings.capabilities)

def registerRequest (c : Client σ) : Wire.RegisterRequest :=
  ⟨c.settings.workerId, c.settings.workerName, c.wireCapabilities, c.settings.version,
    c.settings.metadata⟩

/-- Registers, and keeps the token of the new session. -/
def register (r : Remote σ) (c : Client σ) : Except Failure Unit × Client σ :=
  match Breaker.guarded place (call "register_worker" r (r.register c.registerRequest)) c with
  | (.error e, c) => (.error e, c)
  | (.ok a, c) =>
    if a.success ∧ a.sessionToken ≠ "" then (.ok (), { c with session := some a.sessionToken })
    else (.error (.internal ("coordinator refused registration: " ++ a.message)), c)

/-- Gives the session up and registers again. -/
def reregister (r : Remote σ) (c : Client σ) : Client σ := (register r { c with session := none }).2

/-- The token of the session, which a worker has once it is registered. -/
def token? (c : Client σ) : Except Failure String :=
  match c.session with
  | some t => .ok t
  | none => .error (.unauthenticated ("worker " ++ c.settings.workerId ++ " has no session token"))

/-! ## Heartbeats -/

/-- What the worker says of itself, and of what it depends on. -/
def health (c : Client σ) : WorkerStatus × Labels :=
  let a := c.workshop.analyst
  let said (status : WorkerStatus) (text : String) : WorkerStatus × Labels :=
    (status, .ofList [("coordinator_connection", c.connection.connectivity.label), (a.name, text)])
  match a.illness with
  | some f => said .error ("unhealthy: " ++ f.message)
  | none => said (if 0 < c.counts.active then .busy else .idle) "healthy"

def heartbeatRequest (c : Client σ) (token : String) (memory uptime : UInt64) :
    Wire.HeartbeatRequest :=
  let (status, health) := c.health
  ⟨c.settings.workerId, token, Wire.numberOf status,
    some (.ofStats (c.counts.toStats memory uptime health)),
    some (.ofInstant c.workshop.moment.date)⟩

def heartbeat (r : Remote σ) (c : Client σ) : Except Failure Unit × Client σ :=
  match c.token? with
  | .error e => (.error e, c)
  | .ok t => (c.call "worker_heartbeat" r (r.heartbeat (c.heartbeatRequest t 0 0))).map
      (fun a => a.map fun _ => ()) id

/-! ## Routines -/

/-- A round of the heartbeat: a session that the coordinator does not know is replaced, and after any
other failure the channel is given up. -/
def beat (r : Remote σ) (c : Client σ) : Client σ :=
  match c.heartbeat r with
  | (.ok (), c) => c
  | (.error e, c) =>
    if c.isStopping then c
    else if e.isAuthFailure then c.reregister r
    else { c with line := c.line.modify Connection.markDisconnected }

/-- A round of the connection check: a channel that was given up is replaced, and the session too. -/
def check (r : Remote σ) (c : Client σ) : Client σ :=
  if c.connection.isUsable then c
  else
    match c.onLine (Line.reconnect r.dial) with
    | (.ok (), c) => c.reregister r
    | (.error _, c) => c

/-- Asks for a stream of tasks. -/
def openStream (r : Remote σ) (c : Client σ) : Except Failure Nat × Client σ :=
  match c.token? with
  | .error e => (.error e, c)
  | .ok t => c.call "stream_tasks" r (r.stream ⟨c.settings.workerId, t, c.wireCapabilities⟩)

/-- What a stream that failed means: its session or its channel is given up. -/
def afterStream (r : Remote σ) (f : Failure) (c : Client σ) : Client σ :=
  if f.isAuthFailure then c.reregister r
  else if f.isConnectionFailure then { c with line := c.line.modify Connection.markDisconnected }
  else c

/-- Reports how an execution ended, as often as it takes even when the worker stops. -/
def report (r : Remote σ) (t : TaskResult) (c : Client σ) : Except Failure Unit × Client σ :=
  match c.onLine (Line.call "report_task_result" false r.dial (r.report (.ofResult t))) with
  | (.error e, c) => (.error e, c)
  | (.ok a, c) =>
    (if a.resultReceived then .ok ()
      else .error (.internal ("coordinator did not accept result for " ++ t.taskId ++ ": " ++ a.message)),
      c)

/-! ## Start and end -/

/-- Connects and registers. A worker that cannot be registered closes its connection. -/
def start (r : Remote σ) (c : Client σ) : Except Failure Unit × Client σ :=
  match (c.live .start).onLine (Line.connect r.dial) with
  | (.error e, c) => (.error e, c.live (.connected false))
  | (.ok (), c) =>
    match (c.live (.connected true)).register r with
    | (.error e, c) =>
      (.error e, { c with line := c.line.modify Connection.close }.live (.registered false))
    | (.ok (), c) => (.ok (), c.live (.registered true))

/-- Stops the executions and closes the connection. A worker that was stopped stays so. -/
def shutdown (c : Client σ) : Client σ :=
  if c.lifecycle.canShutDown then
    let c := c.live .shutdown
    { c with workshop := c.workshop.cancel, line := c.line.modify Connection.close }.live .drained
  else c

/-- Starts, and stops after a time. -/
def runFor (r : Remote σ) (s : Span) (c : Client σ) : Except Failure Unit × Client σ :=
  match c.start r with
  | (.error e, c) => (.error e, c)
  | (.ok (), c) => (.ok (), { c with workshop := c.workshop.advance s }.shutdown)

end Client

end WorkDispatch.Worker
