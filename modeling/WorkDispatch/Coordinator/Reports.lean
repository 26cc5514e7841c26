import WorkDispatch.Coordinator.Dispatch
import WorkDispatch.Coordinator.Service

/-!
Reports of results, from any workers and between anything else that may happen to a coordinator.
`Reports` keeps a coordinator together with every report that it accepted.
-/

set_option autoImplicit false

namespace WorkDispatch.Coordinator

structure Reports where
  coordinator : Coordinator
  /-- Every report that was accepted, the latest first. -/
  accepted : List TaskResult

namespace Reports

/-- Nothing has happened yet. -/
def start (s : Settings.Coordinator) (now : Instant) : Reports := ⟨.start s now, []⟩

/-- The reports that are accepted once a step was taken. -/
def note (r : Reports) : Step → List TaskResult
  | .report t => if (r.coordinator.report t).isOk then t :: r.accepted else r.accepted
  | _ => r.accepted

/-- What comes of a step; one that cannot be taken changes nothing. -/
def next (r : Reports) (st : Step) : Reports :=
  match r.coordinator.next? st with
  | some c => ⟨c, r.note st⟩
  | none => r

/-- What comes of steps, one after the other. -/
def run (r : Reports) (steps : List Step) : Reports := steps.foldl next r

/-- Answers a worker that calls to report. -/
def answer (r : Reports) (m : Wire.ResultRequest) : Except Status Wire.ResultResponse × Reports :=
  let (a, c) := Service.report r.coordinator m
  (a, ⟨c, r.note (.report m.toResult)⟩)

end Reports

end WorkDispatch.Coordinator
