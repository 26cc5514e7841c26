import WorkDispatch.Breaker.Basic
import WorkDispatch.Failure
import WorkDispatch.Labels
import WorkDispatch.Retry.Policy
import WorkDispatch.Text.Blank

/-!
What can be set: the coordinator, the worker and its connection, attempts and breakers. Each group
has defaults, and `problem?` says what makes a group unusable. The first problem found is the one
reported.
-/

set_option autoImplicit false

namespace WorkDispatch.Settings

/-- The failure of a setting that cannot be used. -/
def unusable (text : String) : Option Failure := some (.configuration text)

structure Logging where
  level : String
  json : Bool
  deriving DecidableEq

def Logging.default : Logging := ⟨"info", false⟩

/-- Encryption at the coordinator. -/
structure ServerTls where
  enabled : Bool
  certPath : Option String
  keyPath : Option String
  deriving DecidableEq

/-- Encryption at a worker. -/
structure ClientTls where
  enabled : Bool
  caCertPath : Option String
  domainName : Option String
  deriving DecidableEq

/-! ## The coordinator -/

structure Coordinator where
  bindAddress : String
  tls : ServerTls
  queueCapacity : Nat
  staleWorkerThresholdSeconds : Nat
  heartbeatIntervalSeconds : Nat
  sweepIntervalSeconds : Nat
  shutdownTimeoutSeconds : Nat
  keepaliveIntervalSeconds : Nat
  keepaliveTimeoutSeconds : Nat
  /-- Tasks that a stream holds before its dispatch loop has to wait. -/
  streamBuffer : Nat
  deriving DecidableEq

namespace Coordinator

def default : Coordinator :=
  { bindAddress := "0.0.0.0:50051"
    tls := ⟨false, none, none⟩
    queueCapacity := 100
    staleWorkerThresholdSeconds := 120
    heartbeatIntervalSeconds := 30
    sweepIntervalSeconds := 60
    shutdownTimeoutSeconds := 30
    keepaliveIntervalSeconds := 30
    keepaliveTimeoutSeconds := 10
    streamBuffer := 1 }

def staleWorkerThreshold (c : Coordinator) : Span := .ofSeconds c.staleWorkerThresholdSeconds
def sweepInterval (c : Coordinator) : Span := .ofSeconds c.sweepIntervalSeconds
def shutdownTimeout (c : Coordinator) : Span := .ofSeconds c.shutdownTimeoutSeconds

def problem? (c : Coordinator) : Option Failure :=
  if c.queueCapacity = 0 then unusable "coordinator.queue_capacity must be greater than 0"
  else if c.streamBuffer = 0 then unusable "coordinator.stream_buffer must be greater than 0"
  else if c.staleWorkerThresholdSeconds = 0 then
    unusable "coordinator.stale_worker_threshold_seconds must be greater than 0"
  else if c.tls.enabled ∧ (c.tls.certPath.isNone ∨ c.tls.keyPath.isNone) then
    unusable "coordinator.tls requires cert_path and key_path when enabled"
  else none

end Coordinator

/-! ## The worker -/

/-- How a worker reaches the coordinator. -/
structure Connection where
  endpoint : String
  tls : ClientTls
  connectTimeoutMs : Nat
  requestTimeoutMs : Nat
  keepaliveIntervalMs : Nat
  keepaliveTimeoutMs : Nat
  healthPollIntervalMs : Nat
  maxMessageSizeBytes : Nat
  deriving DecidableEq

namespace Connection

def default : Connection :=
  { endpoint := "http://127.0.0.1:50051"
    tls := ⟨false, none, none⟩
    connectTimeoutMs := 30000
    requestTimeoutMs := 30000
    keepaliveIntervalMs := 10000
    keepaliveTimeoutMs := 3000
    healthPollIntervalMs := 5000
    maxMessageSizeBytes := 4194304 }

def connectTimeout (c : Connection) : Span := .ofMillis c.connectTimeoutMs
def requestTimeout (c : Connection) : Span := .ofMillis c.requestTimeoutMs
def keepaliveInterval (c : Connection) : Span := .ofMillis c.keepaliveIntervalMs
def keepaliveTimeout (c : Connection) : Span := .ofMillis c.keepaliveTimeoutMs
def healthPollInterval (c : Connection) : Span := .ofMillis c.healthPollIntervalMs

def problem? (c : Connection) : Option Failure :=
  if Text.isAllBlank c.endpoint then unusable "worker.connection.endpoint must not be empty"
  else if c.connectTimeoutMs = 0 ∨ c.requestTimeoutMs = 0 then
    unusable "worker.connection timeouts must be greater than 0"
  else if c.tls.enabled ∧ c.tls.caCertPath.isNone then
    unusable "worker.connection.tls requires ca_cert_path when enabled"
  else none

end Connection

structure Worker where
  workerId : String
  workerName : String
  capabilities : List Capability
  version : String
  metadata : Labels
  maxConcurrentTasks : Nat
  heartbeatIntervalSeconds : Nat
  connectionCheckIntervalSeconds : Nat
  statsLogIntervalSeconds : Nat
  taskTimeoutSeconds : Nat
  shutdownTimeoutSeconds : Nat
  connection : Connection
  deriving DecidableEq

namespace Worker

/-- The defaults of a worker, which is given an id that no other has. -/
def default (freshId : String) : Worker :=
  { workerId := freshId
    workerName := "ai-worker"
    capabilities := [.aiInsights, .weeklyReports]
    version := "0.1.0"
    metadata := .empty
    maxConcurrentTasks := 5
    heartbeatIntervalSeconds := 30
    connectionCheckIntervalSeconds := 10
    statsLogIntervalSeconds := 300
    taskTimeoutSeconds := 300
    shutdownTimeoutSeconds := 30
    connection := .default }

def heartbeatInterval (w : Worker) : Span := .ofSeconds w.heartbeatIntervalSeconds
def connectionCheckInterval (w : Worker) : Span := .ofSeconds w.connectionCheckIntervalSeconds
def statsLogInterval (w : Worker) : Span := .ofSeconds w.statsLogIntervalSeconds
def taskTimeout (w : Worker) : Span := .ofSeconds w.taskTimeoutSeconds
def shutdownTimeout (w : Worker) : Span := .ofSeconds w.shutdownTimeoutSeconds

def problem? (w : Worker) : Option Failure :=
  if Text.isAllBlank w.workerId ∨ Text.isAllBlank w.workerName then
    unusable "worker.worker_id and worker.worker_name must not be empty"
  else if w.maxConcurrentTasks = 0 then
    unusable "worker.max_concurrent_tasks must be greater than 0"
  else if w.heartbeatIntervalSeconds = 0 ∨ w.connectionCheckIntervalSeconds = 0 then
    unusable "worker intervals must be greater than 0"
  else w.connection.problem?

end Worker

/-! ## Attempts and breakers -/

structure Retry where
  maxAttempts : Nat
  initialDelayMs : Nat
  maxDelayMs : Nat
  backoffFactor : Float
  jitter : Float

namespace Retry

def default : Retry :=
  let p := WorkDispatch.Retry.Policy.default
  ⟨p.maxAttempts, p.initialDelay.millis, p.maxDelay.millis, p.backoffFactor, p.jitter⟩

def toPolicy (r : Retry) : WorkDispatch.Retry.Policy :=
  ⟨r.maxAttempts, .ofMillis r.initialDelayMs, .ofMillis r.maxDelayMs, r.backoffFactor, r.jitter⟩

def problem? (r : Retry) : Option Failure :=
  r.toPolicy.problem?.bind fun p => unusable ("retry: " ++ p)

end Retry

structure Breaker where
  failureThreshold : Nat
  successThreshold : Nat
  timeoutSeconds : Nat
  deriving DecidableEq

namespace Breaker

def default : Breaker := ⟨5, 2, 30⟩

def toConfig (b : Breaker) : WorkDispatch.Breaker.Config :=
  ⟨b.failureThreshold, b.successThreshold, .ofSeconds b.timeoutSeconds⟩

end Breaker

/-- One breaker for each kind of operation behind one. -/
structure Breakers where
  registration : Breaker
  taskProcessing : Breaker
  connection : Breaker
  deriving DecidableEq

namespace Breakers

def default : Breakers := ⟨⟨3, 2, 60⟩, ⟨5, 3, 30⟩, ⟨5, 2, 30⟩⟩

/-- The problem of one breaker, under its name. -/
def problemOf (name : String) (b : Breaker) : Option Failure :=
  b.toConfig.problem?.bind fun p => unusable ("circuit_breakers." ++ name ++ ": " ++ p)

def problem? (b : Breakers) : Option Failure :=
  problemOf "registration" b.registration
    <|> problemOf "task_processing" b.taskProcessing
    <|> problemOf "connection" b.connection

end Breakers

end WorkDispatch.Settings

namespace WorkDispatch

/-- All settings. -/
structure Settings where
  logging : Settings.Logging
  coordinator : Settings.Coordinator
  worker : Settings.Worker
  retry : Settings.Retry
  breakers : Settings.Breakers

namespace Settings

/-- The settings when nothing is set. -/
def default (freshId : String) : Settings :=
  ⟨.default, .default, .default freshId, .default, .default⟩

/-- The first problem, if there is one. -/
def problem? (s : Settings) : Option Failure :=
  s.coordinator.problem? <|> s.worker.problem? <|> s.retry.problem? <|> s.breakers.problem?

end Settings

end WorkDispatch
