import WorkDispatch.Settings.Basic
import WorkDispatch.Document

/-!
Settings in documents. What a document is, is left open: `Access` says how to take a record, a text
or a count out of one. A field that is not written has the default of its group.
-/

set_option autoImplicit false

namespace WorkDispatch.Settings

/-- How values are taken out of documents of some kind. -/
structure Access (υ : Type) where
  /-- The fields of a record, given their names in order. -/
  record? : List String → υ → Option (String → Option υ)
  text? : υ → Option String
  flag? : υ → Option Bool
  /-- A count of so many bits. -/
  count? : Nat → υ → Option Nat
  real? : υ → Option Float
  list? : υ → Option (List υ)
  capability? : υ → Option Capability
  labels? : υ → Option Labels
  isNull : υ → Bool

namespace Access

variable {υ : Type} (A : Access υ)

/-- A text, or null for none. -/
def optionalText? (v : υ) : Option (Option String) :=
  if A.isNull v then some none else (A.text? v).map some

/-- A field, or its default when it is not written. -/
def field {α : Type} (get : String → Option υ) (name : String) (default : α) (f : υ → Option α) :
    Option α :=
  match get name with
  | some v => f v
  | none => some default

def logging? (v : υ) : Option Logging := do
  let get ← A.record? ["level", "json"] v
  let d := Logging.default
  some
    { level := ← field get "level" d.level A.text?
      json := ← field get "json" d.json A.flag? }

def serverTls? (v : υ) : Option ServerTls := do
  let get ← A.record? ["enabled", "cert_path", "key_path"] v
  some
    { enabled := ← field get "enabled" false A.flag?
      certPath := ← field get "cert_path" none A.optionalText?
      keyPath := ← field get "key_path" none A.optionalText? }

def clientTls? (v : υ) : Option ClientTls := do
  let get ← A.record? ["enabled", "ca_cert_path", "domain_name"] v
  some
    { enabled := ← field get "enabled" false A.flag?
      caCertPath := ← field get "ca_cert_path" none A.optionalText?
      domainName := ← field get "domain_name" none A.optionalText? }

def coordinator? (v : υ) : Option Coordinator := do
  let get ← A.record? ["bind_address", "tls", "queue_capacity", "stale_worker_threshold_seconds",
    "heartbeat_interval_seconds", "sweep_interval_seconds", "shutdown_timeout_seconds",
    "keepalive_interval_seconds", "keepalive_timeout_seconds", "stream_buffer"] v
  let d := Coordinator.default
  let count := A.count? 64
  some
    { bindAddress := ← field get "bind_address" d.bindAddress A.text?
      tls := ← field get "tls" d.tls A.serverTls?
      queueCapacity := ← field get "queue_capacity" d.queueCapacity count
      staleWorkerThresholdSeconds :=
        ← field get "stale_worker_threshold_seconds" d.staleWorkerThresholdSeconds count
      heartbeatIntervalSeconds :=
        ← field get "heartbeat_interval_seconds" d.heartbeatIntervalSeconds count
      sweepIntervalSeconds := ← field get "sweep_interval_seconds" d.sweepIntervalSeconds count
      shutdownTimeoutSeconds := ← field get "shutdown_timeout_seconds" d.shutdownTimeoutSeconds count
      keepaliveIntervalSeconds :=
        ← field get "keepalive_interval_seconds" d.keepaliveIntervalSeconds count
      keepaliveTimeoutSeconds :=
        ← field get "keepalive_timeout_seconds" d.keepaliveTimeoutSeconds count
      streamBuffer := ← field get "stream_buffer" d.streamBuffer count }

def connection? (v : υ) : Option Connection := do
  let get ← A.record? ["endpoint", "tls", "connect_timeout_ms", "request_timeout_ms",
    "keepalive_interval_ms", "keepalive_timeout_ms", "health_poll_interval_ms",
    "max_message_size_bytes"] v
  let d := Connection.default
  let count := A.count? 64
  some
    { endpoint := ← field get "endpoint" d.endpoint A.text?
      tls := ← field get "tls" d.tls A.clientTls?
      connectTimeoutMs := ← field get "connect_timeout_ms" d.connectTimeoutMs count
      requestTimeoutMs := ← field get "request_timeout_ms" d.requestTimeoutMs count
      keepaliveIntervalMs := ← field get "keepalive_interval_ms" d.keepaliveIntervalMs count
      keepaliveTimeoutMs := ← field get "keepalive_timeout_ms" d.keepaliveTimeoutMs count
      healthPollIntervalMs := ← field get "health_poll_interval_ms" d.healthPollIntervalMs count
      maxMessageSizeBytes := ← field get "max_message_size_bytes" d.maxMessageSizeBytes count }

def capabilities? (v : υ) : Option (List Capability) := (A.list? v).bind (·.mapM A.capability?)

def worker? (freshId : String) (v : υ) : Option Worker := do
  let get ← A.record? ["worker_id", "worker_name", "capabilities", "version", "metadata",
    "max_concurrent_tasks", "heartbeat_interval_seconds", "connection_check_interval_seconds",
    "stats_log_interval_seconds", "task_timeout_seconds", "shutdown_timeout_seconds",
    "connection"] v
  let d := Worker.default freshId
  let count := A.count? 64
  some
    { workerId := ← field get "worker_id" d.workerId A.text?
      workerName := ← field get "worker_name" d.workerName A.text?
      capabilities := ← field get "capabilities" d.capabilities A.capabilities?
      version := ← field get "version" d.version A.text?
      metadata := ← field get "metadata" d.metadata A.labels?
      maxConcurrentTasks := ← field get "max_concurrent_tasks" d.maxConcurrentTasks count
      heartbeatIntervalSeconds :=
        ← field get "heartbeat_interval_seconds" d.heartbeatIntervalSeconds count
      connectionCheckIntervalSeconds :=
        ← field get "connection_check_interval_seconds" d.connectionCheckIntervalSeconds count
      statsLogIntervalSeconds :=
        ← field get "stats_log_interval_seconds" d.statsLogIntervalSeconds count
      taskTimeoutSeconds := ← field get "task_timeout_seconds" d.taskTimeoutSeconds count
      shutdownTimeoutSeconds := ← field get "shutdown_timeout_seconds" d.shutdownTimeoutSeconds count
      connection := ← field get "connection" d.connection A.connection? }

def retry? (v : υ) : Option Retry := do
  let get ← A.record? ["max_attempts", "initial_delay_ms", "max_delay_ms", "backoff_factor",
    "jitter"] v
  let d := Retry.default
  some
    { maxAttempts := ← field get "max_attempts" d.maxAttempts (A.count? 32)
      initialDelayMs := ← field get "initial_delay_ms" d.initialDelayMs (A.count? 64)
      maxDelayMs := ← field get "max_delay_ms" d.maxDelayMs (A.count? 64)
      backoffFactor := ← field get "backoff_factor" d.backoffFactor A.real?
      jitter := ← field get "jitter" d.jitter A.real? }

def breaker? (v : υ) : Option Breaker := do
  let get ← A.record? ["failure_threshold", "success_threshold", "timeout_seconds"] v
  let d := Breaker.default
  some
    { failureThreshold := ← field get "failure_threshold" d.failureThreshold (A.count? 32)
      successThreshold := ← field get "success_threshold" d.successThreshold (A.count? 32)
      timeoutSeconds := ← field get "timeout_seconds" d.timeoutSeconds (A.count? 64) }

def breakers? (v : υ) : Option Breakers := do
  let get ← A.record? ["registration", "task_processing", "connection"] v
  let d := Breakers.default
  some
    { registration := ← field get "registration" d.registration A.breaker?
      taskProcessing := ← field get "task_processing" d.taskProcessing A.breaker?
      connection := ← field get "connection" d.connection A.breaker? }

def settings? (freshId : String) (v : υ) : Option Settings := do
  let get ← A.record? ["logging", "coordinator", "worker", "retry", "circuit_breakers"] v
  let d := Settings.default freshId
  some
    { logging := ← field get "logging" d.logging A.logging?
      coordinator := ← field get "coordinator" d.coordinator A.coordinator?
      worker := ← field get "worker" d.worker (A.worker? freshId)
      retry := ← field get "retry" d.retry A.retry?
      breakers := ← field get "circuit_breakers" d.breakers A.breakers? }

end Access

/-! ## JSON -/

/-- Documents in JSON, in which a value has to be of its type. -/
def strict : Access Json where
  record? names doc := (Json.fields? names doc).map fun fs name => fs.get? name
  text? := Json.asString?
  flag? := Json.asBool?
  count? := Json.asCount?
  real? := Json.asFloat?
  list? := Json.asList? some
  capability? := Document.named?
  labels? := Json.asLabels?
  isNull doc := match doc with
    | .null => true
    | _ => false

open Json

/-- The shortest digits of a number that is one, and null otherwise. -/
def ofFloat (x : Float) : Json :=
  match Binary64.parts? x with
  | none => .null
  | some p =>
    if p.mantissa = 0 then .number (.decimal p.negative 0 0)
    else
      let (digits, e) := Binary64.shortest p
      .number (.decimal p.negative digits e)

def ofText? : Option String → Json := ofOption .string

def Connection.toJson (c : Connection) : Json := .object
  [("endpoint", .string c.endpoint),
   ("tls", .object [("enabled", .bool c.tls.enabled), ("ca_cert_path", ofText? c.tls.caCertPath),
      ("domain_name", ofText? c.tls.domainName)]),
   ("connect_timeout_ms", ofNat c.connectTimeoutMs),
   ("request_timeout_ms", ofNat c.requestTimeoutMs),
   ("keepalive_interval_ms", ofNat c.keepaliveIntervalMs),
   ("keepalive_timeout_ms", ofNat c.keepaliveTimeoutMs),
   ("health_poll_interval_ms", ofNat c.healthPollIntervalMs),
   ("max_message_size_bytes", ofNat c.maxMessageSizeBytes)]

def Coordinator.toJson (c : Coordinator) : Json := .object
  [("bind_address", .string c.bindAddress),
   ("tls", .object [("enabled", .bool c.tls.enabled), ("cert_path", ofText? c.tls.certPath),
      ("key_path", ofText? c.tls.keyPath)]),
   ("queue_capacity", ofNat c.queueCapacity),
   ("stale_worker_threshold_seconds", ofNat c.staleWorkerThresholdSeconds),
   ("heartbeat_interval_seconds", ofNat c.heartbeatIntervalSeconds),
   ("sweep_interval_seconds", ofNat c.sweepIntervalSeconds),
   ("shutdown_timeout_seconds", ofNat c.shutdownTimeoutSeconds),
   ("keepalive_interval_seconds", ofNat c.keepaliveIntervalSeconds),
   ("keepalive_timeout_seconds", ofNat c.keepaliveTimeoutSeconds),
   ("stream_buffer", ofNat c.streamBuffer)]

def Worker.toJson (w : Worker) : Json := .object
  [("worker_id", .string w.workerId), ("worker_name", .string w.workerName),
   ("capabilities", .array (w.capabilities.map Document.ofNamed)), ("version", .string w.version),
   ("metadata", ofLabels w.metadata.entries), ("max_concurrent_tasks", ofNat w.maxConcurrentTasks),
   ("heartbeat_interval_seconds", ofNat w.heartbeatIntervalSeconds),
   ("connection_check_interval_seconds", ofNat w.connectionCheckIntervalSeconds),
   ("stats_log_interval_seconds", ofNat w.statsLogIntervalSeconds),
   ("task_timeout_seconds", ofNat w.taskTimeoutSeconds),
   ("shutdown_timeout_seconds", ofNat w.shutdownTimeoutSeconds),
   ("connection", w.connection.toJson)]

def Breaker.toJson (b : Breaker) : Json := .object
  [("failure_threshold", ofNat b.failureThreshold),
   ("success_threshold", ofNat b.successThreshold), ("timeout_seconds", ofNat b.timeoutSeconds)]

end WorkDispatch.Settings

namespace WorkDispatch

open Json Settings in
/-- The document of all settings. -/
def Settings.toJson (s : Settings) : Json := .object
  [("logging", .object [("level", .string s.logging.level), ("json", .bool s.logging.json)]),
   ("coordinator", s.coordinator.toJson), ("worker", s.worker.toJson),
   ("retry", .object
     [("max_attempts", ofNat s.retry.maxAttempts),
      ("initial_delay_ms", ofNat s.retry.initialDelayMs),
      ("max_delay_ms", ofNat s.retry.maxDelayMs),
      ("backoff_factor", ofFloat s.retry.backoffFactor), ("jitter", ofFloat s.retry.jitter)]),
   ("circuit_breakers", .object
     [("registration", s.breakers.registration.toJson),
      ("task_processing", s.breakers.taskProcessing.toJson),
      ("connection", s.breakers.connection.toJson)])]

end WorkDispatch
