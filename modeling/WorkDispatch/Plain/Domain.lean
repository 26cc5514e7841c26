import WorkDispatch.Breaker.Basic
import WorkDispatch.Document
import WorkDispatch.Plain.Message
import WorkDispatch.Retry.Script

/-!
The plain form of what the system is about: failures, tasks and their results, policies and breakers.
-/

set_option autoImplicit false

namespace WorkDispatch.Plain

open Json

/-! ## Names -/

/-- The member of a vocabulary that a field names, or one that stands for none. -/
def member {α : Type} [Named α] (j : Json) (k : String) (default : α) : Read α :=
  match field? j k with
  | some v => decoded (Document.named? v)
  | none => .ok default

/-- The members that a list names. -/
def members {α : Type} [Named α] (j : Json) (k : String) : Read (List α) :=
  decoded ((list j k).mapM Document.named?)

def ofMembers {α : Type} [Named α] (as : List α) : Json := .array (as.map Document.ofNamed)

/-! ## Failures -/

/-- A failure; a failure that wraps another is read as deep as it may be. -/
def failureIn : Nat → Json → Read Failure
  | 0, _ => malformed "unknown error kind "
  | fuel + 1, j => do
    let m := text j "message"
    let operation := text j "operation"
    match text j "kind" with
    | "QueueFull" => .ok (.queueFull (nat j "capacity"))
    | "CircuitOpen" => .ok (.circuitOpen (text j "component"))
    | "Rpc" => .ok (.rpc ⟨.ofNumber (int j "code"), m⟩)
    | "RetriesExhausted" =>
      .ok (.retriesExhausted operation (nat32 j "attempts") (← failureIn fuel (field j "source")))
    | "NonRetriable" => .ok (.nonRetriable operation (← failureIn fuel (field j "source")))
    | k =>
      match [Failure.invalidArgument m, .notFound m, .unauthenticated m, .notConnected m, .transport m,
        .timeout m, .cancelled m, .unsupportedTaskType m, .taskExecution m, .deadlineExceeded m,
        .serialization m, .ai m, .configuration m, .internal m].find? fun f => f.name == k with
      | some f => .ok f
      | none => malformed ("unknown error kind " ++ k)

/-- Documents nest no deeper than 128. -/
def failure (j : Json) : Read Failure := failureIn 128 j

/-- A failure in a field, if there is one. -/
def failure? (j : Json) (k : String) : Read (Option Failure) :=
  match field? j k with
  | some v => some <$> failure v
  | none => .ok none

/-- Outcomes of calls: a failure, or text for a call that goes well. -/
def script (j : Json) (k : String) : Read Retry.Script :=
  (list j k).mapM fun v => match v with
    | .string _ => .ok none
    | v => some <$> failure v

/-- A status, with its message as it is to be shown. -/
def ofStatus (s : Status) (message : Json) : Json := .object
  [("code", Document.ofNamed s.code), ("number", ofNat (Named.number s.code)), ("message", message)]

/-! ## Tasks -/

/-- A task made now. Its deadline may be given as seconds from now. -/
def task (j : Json) (now : Instant) : Read Task := do
  let deadline ← match int? j "deadline_in_s" with
    | some _ => do .ok (some (← possible (now.after? (← seconds j "deadline_in_s"))))
    | none => instant? j "deadline"
  .ok ⟨text j "task_id", ← member j "task_type" .unspecified, ← bytes j "payload",
    ← int32 j "priority", deadline, labels j "metadata", now⟩

def ofTask (t : Task) : List (String × Json) :=
  [("task_id", .string t.id), ("task_type", Document.ofNamed t.type),
   ("payload_hex", ofBytes t.payload), ("priority", ofInt32 t.priority),
   ("deadline", ofOption ofInstant t.deadline), ("metadata", ofLabels t.metadata.entries)]

def result (j : Json) : Read TaskResult := do
  .ok ⟨text j "task_id", text j "worker_id", ← member j "status" .unspecified, ← bytes j "result",
    text j "error_message", ← instant? j "started_at", ← instant? j "completed_at"⟩

/-- A result, with its message as it is to be shown. -/
def ofResult (r : TaskResult) (message : Json) : Json := .object
  [("task_id", .string r.taskId), ("worker_id", .string r.workerId),
   ("status", Document.ofNamed r.status), ("result_hex", ofBytes r.result),
   ("error_message", message), ("started_at", ofOption ofInstant r.startedAt),
   ("completed_at", ofOption ofInstant r.completedAt)]

/-- What is known of a worker at a time. -/
def ofSnapshot (w : WorkerSnapshot) (now : Instant) : List (String × Json) :=
  [("worker_id", .string w.workerId), ("worker_name", .string w.workerName),
   ("capabilities", ofMembers w.capabilities.toList), ("version", .string w.version),
   ("metadata", ofLabels w.metadata.entries), ("status", Document.ofNamed w.status),
   ("stats", Document.ofStats w.stats), ("streaming", .bool w.streaming),
   ("age_s", ofInt ((w.heartbeatAge now).tdiv 1000000000))]

/-! ## Breakers and policies -/

def breakerConfig (j : Json) : Breaker.Config :=
  match j with
  | .string "registration" => .registration
  | .string "task_processing" => .taskProcessing
  | .string "connection" => .connection
  | j => ⟨nat32 j "failure_threshold" 1, nat32 j "success_threshold" 1,
      (span? j "timeout").getD (.ofSeconds 3600)⟩

def ofMetrics (m : Breaker.Metrics) : Json := .object
  [("state", Document.ofNamed m.state), ("total", ofNat m.totalCalls),
   ("success", ofNat m.successCount), ("failure", ofNat m.failureCount),
   ("rejected", ofNat m.rejectedCalls), ("transitions", ofNat m.transitions),
   ("cf", ofNat m.consecutiveFailures), ("cs", ofNat m.consecutiveSuccesses),
   ("failure_rate", ofFloat m.failureRate), ("healthy", .bool m.isHealthy)]

def policy (j : Json) : Retry.Policy :=
  let p : Retry.Policy := match nat? j "fast" with
    | some _ => .fast (nat32 j "fast")
    | none => .default
  ⟨nat32 j "max_attempts" p.maxAttempts, (span? j "initial_delay").getD p.initialDelay,
    (span? j "max_delay").getD p.maxDelay, (float? j "backoff_factor").getD p.backoffFactor,
    (float? j "jitter").getD p.jitter⟩

def ofPolicy (p : Retry.Policy) : Json := .object
  [("max_attempts", ofNat p.maxAttempts), ("initial_delay", ofSpan p.initialDelay),
   ("max_delay", ofSpan p.maxDelay), ("backoff_factor", ofFloat p.backoffFactor),
   ("jitter", ofFloat p.jitter)]

end WorkDispatch.Plain
