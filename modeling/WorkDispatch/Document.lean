import WorkDispatch.Json.Fields
import WorkDispatch.Json.Writer
import WorkDispatch.Task
import WorkDispatch.Breaker.Basic

/-!
The documents that values of the system are kept in: members of vocabularies by their names, sets as
lists, records as objects, points in time as text and spans as seconds and nanoseconds.
-/

set_option autoImplicit false

namespace WorkDispatch.Document

open Json

/-! ## Vocabularies -/

def ofNamed {α : Type} [Named α] (a : α) : Json := .string (Named.name a)

/-- A member by its name, which may also be written as the only member of an object, with nothing in
it. -/
def named? {α : Type} [Named α] : Reader α
  | .string s => Named.ofName? s
  | .object [(s, .null)] => Named.ofName? s
  | _ => none

def ofCapabilities (s : CapabilitySet) : Json := .array (s.toList.map ofNamed)

def capabilities? : Reader CapabilitySet := fun doc => (asList? named? doc).map CapabilitySet.ofList

def ofBytes (b : Bytes) : Json := .array (b.map fun x => ofNat x.toNat)

/-! ## Workers -/

def ofStats (s : WorkerStats) : Json := .object
  [("active_tasks", ofNat s.activeTasks.toNat), ("completed_tasks", ofNat s.completedTasks.toNat),
   ("failed_tasks", ofNat s.failedTasks.toNat),
   ("memory_usage_bytes", ofNat s.memoryUsageBytes.toNat),
   ("uptime_seconds", ofNat s.uptimeSeconds.toNat),
   ("service_health", ofLabels s.serviceHealth.entries)]

def stats? : Reader WorkerStats := fun doc => do
  let fs ← fields? ["active_tasks", "completed_tasks", "failed_tasks", "memory_usage_bytes",
    "uptime_seconds", "service_health"] doc
  some
    { activeTasks := .ofNat (← fs.required "active_tasks" (asCount? 32))
      completedTasks := .ofNat (← fs.required "completed_tasks" (asCount? 64))
      failedTasks := .ofNat (← fs.required "failed_tasks" (asCount? 64))
      memoryUsageBytes := .ofNat (← fs.required "memory_usage_bytes" (asCount? 64))
      uptimeSeconds := .ofNat (← fs.required "uptime_seconds" (asCount? 64))
      serviceHealth := ← fs.required "service_health" asLabels? }

def ofSnapshot (w : WorkerSnapshot) : Json := .object
  [("worker_id", .string w.workerId), ("worker_name", .string w.workerName),
   ("capabilities", ofCapabilities w.capabilities), ("version", .string w.version),
   ("metadata", ofLabels w.metadata.entries), ("registered_at", ofInstant w.registeredAt),
   ("last_heartbeat", ofInstant w.lastHeartbeat), ("status", ofNamed w.status),
   ("stats", ofStats w.stats), ("streaming", .bool w.streaming)]

def snapshot? : Reader WorkerSnapshot := fun doc => do
  let fs ← fields? ["worker_id", "worker_name", "capabilities", "version", "metadata",
    "registered_at", "last_heartbeat", "status", "stats", "streaming"] doc
  some
    { workerId := ← fs.required "worker_id" asString?
      workerName := ← fs.required "worker_name" asString?
      capabilities := ← fs.required "capabilities" capabilities?
      version := ← fs.required "version" asString?
      metadata := ← fs.required "metadata" asLabels?
      registeredAt := ← fs.required "registered_at" asInstant?
      lastHeartbeat := ← fs.required "last_heartbeat" asInstant?
      status := ← fs.required "status" named?
      stats := ← fs.required "stats" stats?
      streaming := ← fs.required "streaming" asBool? }

/-! ## Results -/

def ofResult (r : TaskResult) : Json := .object
  [("task_id", .string r.taskId), ("worker_id", .string r.workerId), ("status", ofNamed r.status),
   ("result", ofBytes r.result), ("error_message", .string r.errorMessage),
   ("started_at", ofOption ofInstant r.startedAt),
   ("completed_at", ofOption ofInstant r.completedAt)]

/-! ## Breakers -/

def ofMetrics (m : Breaker.Metrics) : Json := .object
  [("total_calls", ofNat m.totalCalls), ("success_count", ofNat m.successCount),
   ("failure_count", ofNat m.failureCount), ("rejected_calls", ofNat m.rejectedCalls),
   ("state_transitions", ofNat m.transitions),
   ("consecutive_failures", ofNat m.consecutiveFailures),
   ("consecutive_successes", ofNat m.consecutiveSuccesses),
   ("total_duration", ofSpan m.totalDuration), ("current_state", ofNamed m.state)]

def metrics? : Reader Breaker.Metrics := fun doc => do
  let fs ← fields? ["total_calls", "success_count", "failure_count", "rejected_calls",
    "state_transitions", "consecutive_failures", "consecutive_successes", "total_duration",
    "current_state"] doc
  some
    { totalCalls := ← fs.required "total_calls" (asCount? 64)
      successCount := ← fs.required "success_count" (asCount? 64)
      failureCount := ← fs.required "failure_count" (asCount? 64)
      rejectedCalls := ← fs.required "rejected_calls" (asCount? 64)
      transitions := ← fs.required "state_transitions" (asCount? 64)
      consecutiveFailures := ← fs.required "consecutive_failures" (asCount? 32)
      consecutiveSuccesses := ← fs.required "consecutive_successes" (asCount? 32)
      totalDuration := ← fs.required "total_duration" asSpan?
      state := ← fs.required "current_state" named? }

end WorkDispatch.Document
