import WorkDispatch.Connection.Line
import WorkDispatch.Wire.Convert
import WorkDispatch.Worker.Workshop

/-!
Telling the coordinator how far a task has come. It is a call like any other: tried again as the policy of
the connection says, and with a dial before it where there is no usable channel. What comes of it is
dropped, but the execution waits for as long as it takes.
-/

set_option autoImplicit false

namespace WorkDispatch.Worker

open Connection

namespace Checkpoint

/-- How far a task has come, in hundredths. -/
def percent : Checkpoint → Int32
  | started => 25
  | finished => 100

/-- What is said of an inquiry. -/
def remark : Checkpoint → Inquiry → String
  | started, .insight _ => "generating insight"
  | finished, .insight _ => "insight generated"
  | started, .weekly _ => "generating weekly report"
  | finished, .weekly _ => "weekly report generated"

/-- What the coordinator is told. -/
def update (k : Checkpoint) (workerId taskId : String) (q : Inquiry) (date : Instant) :
    Wire.ProgressUpdate :=
  ⟨taskId, workerId, k.percent, k.remark q, some (.ofInstant date)⟩

end Checkpoint

/-- Tells the coordinator, and says how long it took. -/
def tell {σ : Type} (cancelled : Bool) (dial : Dial σ) (progress : Wire.ProgressUpdate → Ask σ Unit)
    (u : Wire.ProgressUpdate) (l : Line σ) : Span × Line σ :=
  let l' := (l.call "update_task_progress" cancelled dial (progress u)).2
  (⟨l'.now.nanoseconds - l.now.nanoseconds⟩, l')

end WorkDispatch.Worker
