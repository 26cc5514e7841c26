import WorkDispatch.Json.Writer
import WorkDispatch.Task
import WorkDispatch.Worker.Analysis

/-!
What a worker asks the analysis service for, and what it finds. A task is an inquiry when its type is
one that the service has an answer to and its payload can be read.
-/

set_option autoImplicit false

namespace WorkDispatch.Worker

/-- What the service is asked for. -/
inductive Inquiry
  | insight (job : InsightJob)
  | weekly (job : WeeklyJob)
  deriving DecidableEq

/-- What the service finds. -/
inductive Finding
  | insight (i : Insight)
  | weekly (r : WeeklyReport)
  deriving DecidableEq

namespace Finding

def toJson : Finding → Json
  | insight i => i.toJson
  | weekly r => r.toJson

/-- The bytes of a result. -/
def encode (f : Finding) : Bytes := Text.toUtf8 (Json.write f.toJson)

end Finding

/-- Why a task is no inquiry. -/
inductive Unfit
  /-- Its payload cannot be read. -/
  | unreadable
  /-- The service has no answer to its type. -/
  | unsupported (type : TaskType)
  deriving DecidableEq

namespace Unfit

/-- The failure of a task that is no inquiry. What the reader says of a payload is its own matter. -/
def toFailure (complaint : String) : Unfit → Failure
  | unreadable => .serialization ("JSON serialization error: " ++ complaint)
  | unsupported type => .unsupportedTaskType (Named.name type)

end Unfit

namespace Inquiry

/-- The inquiry of a task. -/
def ofTask (t : Task) : Except Unfit Inquiry :=
  match t.type with
  | .insightGeneration => ((InsightJob.decode? t.payload).map insight).elim (.error .unreadable) .ok
  | .weeklyReport => ((WeeklyJob.decode? t.payload).map weekly).elim (.error .unreadable) .ok
  | other => .error (.unsupported other)

/-- What the offline service finds. -/
def findOffline (now : Instant) : Inquiry → Except Failure Finding
  | insight j => (Offline.insight j now).map .insight
  | weekly j => (Offline.weeklyReport j now).map .weekly

end Inquiry

end WorkDispatch.Worker
