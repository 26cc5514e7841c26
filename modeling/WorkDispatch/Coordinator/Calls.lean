import WorkDispatch.Coordinator.Manager

/-!
Starts and stops of one coordinator, one call after another and in any order. A stop waits for the
server that runs, if one does: how that server ends is given.
-/

set_option autoImplicit false

namespace WorkDispatch.Coordinator.Manager

/-- How a server ends that was told to. -/
inductive Ending
  /-- It has answered all that it was asked. -/
  | drained
  | failed (why : String)
  /-- Its task broke off. -/
  | lost (why : String)
  /-- It was not done in time, and is given up. -/
  | overdue
  deriving DecidableEq

def Ending.toResult : Ending → Except Failure Unit
  | drained | overdue => .ok ()
  | failed why => .error (.transport why)
  | lost why => .error (.internal ("gRPC server task failed: " ++ why))

/-- Stops to serve, and says what came of it: nothing went wrong where no server was running. -/
def halt (m : Manager) (e : Ending) : Except Failure Unit × Manager :=
  (if !m.stopped && m.server.isSome then e.toResult else .ok (), m.stop)

inductive Call
  | start (h : Host)
  | stop (e : Ending)

namespace Call

def isStop : Call → Bool
  | start _ => false
  | stop _ => true

end Call

/-- The coordinator after a call. -/
def after (m : Manager) : Call → Manager
  | .start h => (m.start h).2
  | .stop e => (m.halt e).2

/-- The coordinator after calls, the first one first. -/
def afterAll (m : Manager) (calls : List Call) : Manager := calls.foldl after m

end WorkDispatch.Coordinator.Manager
