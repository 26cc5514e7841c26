import WorkDispatch.Plain.Basic
import WorkDispatch.Wire.Convert

/-!
The plain form of the messages on the wire. Numbers of vocabularies stay numbers, and a timestamp need
not denote a point in time.
-/

set_option autoImplicit false

namespace WorkDispatch.Plain

open Json

def ofInt32 (n : Int32) : Json := ofInt n.toInt

def timestamp (j : Json) (k : String) : Read (Option Wire.Timestamp) :=
  match field j k with
  | .object ms => do .ok (some ⟨.ofInt (int (.object ms) "seconds"), ← int32 (.object ms) "nanos"⟩)
  | _ => .ok none

def ofTimestamp (t : Wire.Timestamp) : Json :=
  .object [("seconds", ofInt t.seconds.toInt), ("nanos", ofInt32 t.nanos)]

/-- A point in time, when it is given. -/
def instant? (j : Json) (k : String) : Read (Option Instant) := do
  match ← timestamp j k with
  | none => .ok none
  | some t =>
    match t.toInstant? with
    | some i => .ok (some i)
    | none => malformed (k ++ " out of range")

/-- A point in time that has to be given. -/
def instant (j : Json) (k : String) : Read Instant := do
  match ← instant? j k with
  | some i => .ok i
  | none => malformed k

def ofInstant (i : Instant) : Json :=
  .object [("seconds", ofInt i.seconds), ("nanos", ofNat i.nanos)]

/-! ## Messages -/

def taskItem (j : Json) : Read Wire.TaskItem := do
  .ok ⟨text j "task_id", ← int32 j "task_type", ← bytes j "payload", ← int32 j "priority",
    ← timestamp j "deadline", labels j "metadata", ← timestamp j "created_at"⟩

/-- An item without the time at which it was made. -/
def ofTaskItem (i : Wire.TaskItem) : List (String × Json) :=
  [("task_id", .string i.taskId), ("task_type", ofInt32 i.taskType),
   ("payload_hex", ofBytes i.payload), ("priority", ofInt32 i.priority),
   ("deadline", ofOption ofTimestamp i.deadline), ("metadata", ofLabels i.metadata.entries)]

def resultRequest (j : Json) : Read Wire.ResultRequest := do
  .ok ⟨text j "task_id", text j "worker_id", ← int32 j "status", ← bytes j "result",
    text j "error_message", ← timestamp j "started_at", ← timestamp j "completed_at"⟩

def ofResultRequest (r : Wire.ResultRequest) : Json := .object
  [("task_id", .string r.taskId), ("worker_id", .string r.workerId), ("status", ofInt32 r.status),
   ("result_hex", ofBytes r.result), ("error_message", .string r.errorMessage),
   ("started_at", ofOption ofTimestamp r.startedAt),
   ("completed_at", ofOption ofTimestamp r.completedAt)]

def stats (j : Json) : Read Wire.Stats := do
  let count := fun k => Int64.ofInt (int j k)
  .ok ⟨← int32 j "active_tasks", count "completed_tasks", count "failed_tasks",
    count "memory_usage_bytes", count "uptime_seconds", labels j "service_health"⟩

def ofStats (s : Wire.Stats) : Json := .object
  [("active_tasks", ofInt32 s.activeTasks), ("completed_tasks", ofInt s.completedTasks.toInt),
   ("failed_tasks", ofInt s.failedTasks.toInt),
   ("memory_usage_bytes", ofInt s.memoryUsageBytes.toInt),
   ("uptime_seconds", ofInt s.uptimeSeconds.toInt), ("service_health", ofLabels s.serviceHealth.entries)]

def registerRequest (j : Json) : Read Wire.RegisterRequest := do
  .ok ⟨text j "worker_id", text j "worker_name", ← int32s j "capabilities", text j "version",
    labels j "metadata"⟩

def ofRegisterRequest (m : Wire.RegisterRequest) : Json := .object
  [("worker_id", .string m.workerId), ("worker_name", .string m.workerName),
   ("capabilities", .array (m.capabilities.map ofInt32)), ("version", .string m.version),
   ("metadata", ofLabels m.metadata.entries)]

def heartbeatRequest (j : Json) : Read Wire.HeartbeatRequest := do
  let stats ← match field? j "stats" with
    | some v => some <$> stats v
    | none => .ok none
  .ok ⟨text j "worker_id", text j "session_token", ← int32 j "status", stats, ← timestamp j "timestamp"⟩

def ofHeartbeatRequest (m : Wire.HeartbeatRequest) : Json := .object
  [("worker_id", .string m.workerId), ("session_token", .string m.sessionToken),
   ("status", ofInt32 m.status), ("stats", ofOption ofStats m.stats),
   ("timestamp", ofOption ofTimestamp m.timestamp)]

def streamRequest (j : Json) : Read Wire.StreamRequest := do
  .ok ⟨text j "worker_id", text j "session_token", ← int32s j "capabilities"⟩

def progressUpdate (j : Json) : Read Wire.ProgressUpdate := do
  .ok ⟨text j "task_id", text j "worker_id", ← int32 j "progress_percent", text j "status_message",
    ← timestamp j "updated_at"⟩

/-- The plain form of one kind of message, beside its bytes. -/
structure Codec where
  encode : Json → Read Bytes
  decode : Bytes → Option Json

/-- The codec of a kind of message that has a plain form. -/
def codec {α : Type} [Wire.Message α] (read : Json → Read α) (write : α → Json) : Codec where
  encode j := do .ok (Wire.Message.encode (← read j))
  decode b := (Wire.Message.decode? (α := α) b).map write

/-- The kinds of messages, by their names. -/
def codecs : List (String × Codec) := [
  ("RegisterWorkerRequest", codec registerRequest ofRegisterRequest),
  ("RegisterWorkerResponse", codec
    (fun j => do .ok (Wire.RegisterResponse.mk (flag j "success") (text j "message")
      (text j "session_token") (← int32 j "heartbeat_interval_seconds")))
    fun m => .object [("success", .bool m.success), ("message", .string m.message),
      ("session_token", .string m.sessionToken),
      ("heartbeat_interval_seconds", ofInt32 m.heartbeatIntervalSeconds)]),
  ("WorkerStats", codec stats ofStats),
  ("HeartbeatRequest", codec heartbeatRequest ofHeartbeatRequest),
  ("HeartbeatResponse", codec
    (fun j => do .ok (Wire.HeartbeatResponse.mk (flag j "connection_healthy") (text j "message")
      (← timestamp j "server_time")))
    fun m => .object [("connection_healthy", .bool m.connectionHealthy), ("message", .string m.message),
      ("server_time", ofOption ofTimestamp m.serverTime)]),
  ("StreamTasksRequest", codec streamRequest fun m => .object
    [("worker_id", .string m.workerId), ("session_token", .string m.sessionToken),
     ("capabilities", .array (m.capabilities.map ofInt32))]),
  ("TaskItem", codec taskItem fun m =>
    .object (ofTaskItem m ++ [("created_at", ofOption ofTimestamp m.createdAt)])),
  ("TaskResultRequest", codec resultRequest ofResultRequest),
  ("TaskResultResponse", codec
    (fun j => .ok (Wire.ResultResponse.mk (flag j "result_received") (text j "message")))
    fun m => .object [("result_received", .bool m.resultReceived), ("message", .string m.message)]),
  ("TaskProgressUpdate", codec progressUpdate fun m => .object
    [("task_id", .string m.taskId), ("worker_id", .string m.workerId),
     ("progress_percent", ofInt32 m.progressPercent), ("status_message", .string m.statusMessage),
     ("updated_at", ofOption ofTimestamp m.updatedAt)]),
  ("HealthCheckResponse", codec
    (fun j => do .ok (Wire.HealthResponse.mk (text j "status") (← timestamp j "timestamp")
      (labels j "services") (← int32 j "active_worker_count")))
    fun m => .object [("status", .string m.status), ("timestamp", ofOption ofTimestamp m.timestamp),
      ("services", ofLabels m.services.entries),
      ("active_worker_count", ofInt32 m.activeWorkerCount)]),
  ("Empty", codec (fun _ => .ok Wire.Nothing.mk) fun _ => .object []),
  ("HealthCheckRequest", codec (fun _ => .ok Wire.Nothing.mk) fun _ => .object [])]

def codecOf (name : String) : Read Codec :=
  match codecs.lookup name with
  | some c => .ok c
  | none => malformed "unknown message"

end WorkDispatch.Plain
