import WorkDispatch.Connection.Line
import WorkDispatch.Plain.Domain
import WorkDispatch.Worker.Workshop

/-!
The plain form of what a worker meets: an analysis service whose behaviour is laid down, replies of
the coordinator, and the outcome of an execution.
-/

set_option autoImplicit false

namespace WorkDispatch.Plain

open Json

/-- How the service behaves at a call: a word, a delay in milliseconds, or the failure it fails with. -/
def behaviour (j : Json) : Read Worker.Behaviour :=
  match j with
  | .string "hang" => .ok .hangs
  | .string "gate" => .ok .answersOnRelease
  | .object _ =>
    match field? j "error" with
    | some e => .fails <$> failure e
    | none => .ok (.answersAfter (.ofMillis (nat j "delay_ms")))
  | _ => .ok .answers

/-- A service; it has a name even when it is given none. -/
def analyst (j : Json) : Read Worker.Analyst := do
  let name := ((field? j "name").bind asString?).getD "scripted"
  .ok (.new name (← (list j "script").mapM behaviour) (← failure? j "health_error"))

def ofAnalyst (a : Worker.Analyst) : Json := .object
  [("calls", ofNat a.calls), ("running", ofNat a.running), ("peak", ofNat a.peak)]

def ofCounts (c : Worker.Counts) : Json := .object
  [("active", ofNat c.active), ("completed", ofNat c.completed), ("failed", ofNat c.failed)]

/-- What there is to see of executions on their clock. -/
def ofWorkshop (w : Worker.Workshop) : List (String × Json) :=
  let e := w.executor
  [("counts", ofCounts e.book.counts), ("active", ofNames e.book.active.keys),
   ("breaker", ofMetrics e.breaker.metrics), ("ai", ofAnalyst w.analyst)]

/-- What there is to see of a connection. -/
def ofConnection (c : Connection) : List (String × Json) :=
  [("connectivity", Document.ofNamed c.connectivity), ("connected", .bool c.connected),
   ("usable", .bool c.isUsable), ("closed", .bool c.closed), ("ever", .bool (c.generation != 0)),
   ("connects", ofNat c.generation), ("reconnects", ofNat c.reconnects),
   ("breaker", ofMetrics c.breaker.metrics)]

def ofActive (t : Worker.ActiveTask) : Json := .object
  [("task_type", Document.ofNamed t.type), ("payload_hex", ofBytes t.payload),
   ("progress", ofInt32 t.progress)]

/-- A reply: a word, or the status of a refusal. -/
def reply (j : Json) : Reply Unit :=
  match j with
  | .string "hang" => .overdue
  | .object _ => .refusal ⟨.ofNumber (int j "code"), text j "message"⟩
  | _ => .answer ()

/-- The reply of a number, counted from 0; the last one repeats, and without any all is well. -/
def replyAt (rs : List (Reply Unit)) (n : Nat) : Reply Unit :=
  (rs[n]?).getD (rs.getLast?.getD (.answer ()))

/-- How an execution ended, with its message and its result as they are to be shown. -/
def ofOutcome (r : TaskResult) (message : String → Json) (shown : Json → Json) : Json := .object
  [("task_id", .string r.taskId), ("worker_id", .string r.workerId),
   ("status", Document.ofNamed r.status), ("error_message", message r.errorMessage),
   ("result", if r.result = [] then .null else ((Json.read? r.result).map shown).getD .null),
   ("timed", .bool (match r.startedAt, r.completedAt with
     | some s, some c => s ≤ c
     | _, _ => false))]

end WorkDispatch.Plain
