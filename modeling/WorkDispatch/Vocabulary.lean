/-!
The closed vocabularies of the system: what a worker can do and is doing, what a task is and how it
ended. Every member has a name, and a number by its place in the vocabulary.
-/

set_option autoImplicit false

namespace WorkDispatch

/-- A finite vocabulary: its members in order, and their names. -/
class Named (α : Type) where
  all : List α
  name : α → String

namespace Named

variable {α : Type} [Named α]

/-- The member of a name. -/
def ofName? (s : String) : Option α := (all (α := α)).find? fun a => name a == s

/-- The number of a member. -/
def number [DecidableEq α] (a : α) : Nat := (all (α := α)).idxOf a

/-- The member of a number. -/
def ofNumber? (n : Int) : Option α := if n < 0 then none else (all (α := α))[n.toNat]?

end Named

/-- What a worker can be asked to do. -/
inductive Capability
  | unspecified | aiInsights | weeklyReports | dataAnalysis | notifications
  deriving DecidableEq, Repr

instance : Named Capability where
  all := [.unspecified, .aiInsights, .weeklyReports, .dataAnalysis, .notifications]
  name
    | .unspecified => "UNSPECIFIED"
    | .aiInsights => "AI_INSIGHTS"
    | .weeklyReports => "WEEKLY_REPORTS"
    | .dataAnalysis => "DATA_ANALYSIS"
    | .notifications => "NOTIFICATIONS"

/-- What a worker last said of itself. -/
inductive WorkerStatus
  | unspecified | idle | busy | error
  deriving DecidableEq, Repr, Inhabited

instance : Named WorkerStatus where
  all := [.unspecified, .idle, .busy, .error]
  name
    | .unspecified => "UNSPECIFIED"
    | .idle => "IDLE"
    | .busy => "BUSY"
    | .error => "ERROR"

/-- What a task asks for. -/
inductive TaskType
  | unspecified | insightGeneration | weeklyReport | dataAnalysis | notification | cleanup
  deriving DecidableEq, Repr, Inhabited

instance : Named TaskType where
  all := [.unspecified, .insightGeneration, .weeklyReport, .dataAnalysis, .notification, .cleanup]
  name
    | .unspecified => "UNSPECIFIED"
    | .insightGeneration => "INSIGHT_GENERATION"
    | .weeklyReport => "WEEKLY_REPORT"
    | .dataAnalysis => "DATA_ANALYSIS"
    | .notification => "NOTIFICATION"
    | .cleanup => "CLEANUP"

/-- The capability a worker must declare to be given a task of this type. Any worker may be given a
task that needs none. -/
def TaskType.required? : TaskType → Option Capability
  | .insightGeneration => some .aiInsights
  | .weeklyReport => some .weeklyReports
  | .dataAnalysis => some .dataAnalysis
  | .notification => some .notifications
  | .cleanup | .unspecified => none

/-- How far a task has come. -/
inductive TaskStatus
  | unspecified | pending | running | completed | failed | cancelled
  deriving DecidableEq, Repr, Inhabited

instance : Named TaskStatus where
  all := [.unspecified, .pending, .running, .completed, .failed, .cancelled]
  name
    | .unspecified => "UNSPECIFIED"
    | .pending => "PENDING"
    | .running => "RUNNING"
    | .completed => "COMPLETED"
    | .failed => "FAILED"
    | .cancelled => "CANCELLED"

/-- How well the coordinator can give out tasks. -/
inductive HealthStatus
  | healthy | degraded | noWorkers
  deriving DecidableEq, Repr

instance : Named HealthStatus where
  all := [.healthy, .degraded, .noWorkers]
  name
    | .healthy => "HEALTHY"
    | .degraded => "DEGRADED"
    | .noWorkers => "NO_WORKERS"

/-- The status as it is shown: having no workers counts as a way of being degraded. -/
def HealthStatus.display : HealthStatus → String
  | .noWorkers => "DEGRADED_NO_WORKERS"
  | s => Named.name s

end WorkDispatch
