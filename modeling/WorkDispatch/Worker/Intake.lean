import WorkDispatch.Bits
import WorkDispatch.Task

/-!
How a worker takes tasks in. It asks for a stream, reads a task off it, waits for a free slot with the
task in hand, starts the execution in it, and reads on; so a worker whose slots are all taken stops
reading. A slot is free again when its execution has ended, whichever stream the task came from. A
worker that stops asks for no other stream, and leaves the one it has, whether it waits for a task or
for a slot; until it leaves, what it waits for may still come.
-/

set_option autoImplicit false

namespace WorkDispatch.Worker

/-- What an intake waits for. -/
inductive Intake.Stage
  /-- Until it is time to ask for a stream. -/
  | apart
  /-- The stream it asked for. -/
  | asking
  /-- The next task of its stream. -/
  | reading
  /-- A slot for the task in hand. -/
  | holding (t : Task)
  deriving DecidableEq

structure Intake where
  /-- How many executions may run at a time. -/
  slots : Nat
  stage : Intake.Stage
  /-- The executions that have a slot, by their place among those that were started. -/
  running : List Nat
  /-- Every task that was read, the latest first. -/
  received : List Task
  /-- Every task whose execution was started, the latest first. -/
  started : List Task
  /-- Whether the worker stops. -/
  cancelled : Bool
  deriving DecidableEq

namespace Intake

/-- Whether slots can be counted: their number has 61 bits. -/
def fits (maxConcurrent : Nat) : Bool := decide (maxConcurrent < Bits.count61)

/-- An intake without a stream, for so many executions at a time, and one at least. -/
def new (maxConcurrent : Nat) : Intake := ⟨max maxConcurrent 1, .apart, [], [], [], false⟩

/-- The task in hand. -/
def held? (i : Intake) : Option Task :=
  match i.stage with
  | .holding t => some t
  | _ => none

/-- The task in hand, once there is a slot for it. -/
def due? (i : Intake) : Option Task := if i.running.length < i.slots then i.held? else none

inductive Event
  /-- The worker asks for a stream. -/
  | ask
  /-- The stream is there. -/
  | opened
  /-- There will be no stream. -/
  | refused
  /-- A task is read off the stream. -/
  | read (t : Task)
  /-- The task in hand is given a slot. -/
  | start
  /-- An execution gives its slot back. -/
  | finish (number : Nat)
  /-- The stream ends or fails. -/
  | ended
  /-- The worker stops. -/
  | cancel
  /-- The intake leaves its stream because the worker stops. -/
  | leave
  deriving DecidableEq

/-- What comes of an event; one that cannot happen changes nothing. -/
def apply (i : Intake) : Event → Intake
  | .ask => if i.stage = .apart ∧ i.cancelled = false then { i with stage := .asking } else i
  | .opened => if i.stage = .asking then { i with stage := .reading } else i
  | .refused => if i.stage = .asking then { i with stage := .apart } else i
  | .read t =>
    if i.stage = .reading then { i with stage := .holding t, received := t :: i.received } else i
  | .start =>
    match i.due? with
    | some t =>
      { i with
        stage := .reading
        running := i.running ++ [i.started.length]
        started := t :: i.started }
    | none => i
  | .finish number => { i with running := i.running.erase number }
  | .ended => if i.stage = .reading then { i with stage := .apart } else i
  | .cancel => { i with cancelled := true }
  | .leave => if i.cancelled ∧ i.stage ≠ .asking then { i with stage := .apart } else i

end Intake

end WorkDispatch.Worker
