import WorkDispatch.Settings.Basic
import WorkDispatch.Worker.Executor
import WorkDispatch.Worker.Intake

/-!
A worker at work: an intake, and the executions of the tasks that it starts. An execution arrives with
its slot and gives it back once it has ended and its result was reported, or could not be. Executions
are stopped when the worker stops. What happens comes in any order.
-/

set_option autoImplicit false

namespace WorkDispatch.Worker

structure Shift where
  intake : Intake
  executor : Executor

namespace Shift

/-- A worker that was started. -/
def new (s : Settings) (complaint : TaskType → Bytes → String := fun _ _ => "") : Shift where
  intake := .new s.worker.maxConcurrentTasks
  executor :=
    .new s.worker.workerId s.worker.taskTimeout s.breakers.taskProcessing.toConfig complaint

inductive Event
  | intake (v : Intake.Event)
  | execution (v : Executor.Event)

/-- What comes of an event at a moment; one that cannot happen changes nothing. That a task is started means
that its execution is spawned: it is in the book from then on, though it may be a while until it runs. -/
def apply (s : Shift) (m : Moment) : Event → Shift
  | .intake .start =>
    match s.intake.due? with
    | some t => ⟨s.intake.apply .start, s.executor.apply m (.arrive t)⟩
    | none => s
  | .intake (.finish n) =>
    if s.executor.get? n = none then { s with intake := s.intake.apply (.finish n) } else s
  | .intake v => { s with intake := s.intake.apply v }
  | .execution (.arrive _) => s
  | .execution (.cancel n) =>
    if s.intake.cancelled then { s with executor := s.executor.apply m (.cancel n) } else s
  | .execution v => { s with executor := s.executor.apply m v }

/-- What comes of events at their moments. -/
def applyAll (s : Shift) (es : List (Moment × Event)) : Shift :=
  es.foldl (fun s p => s.apply p.1 p.2) s

end Shift

end WorkDispatch.Worker
