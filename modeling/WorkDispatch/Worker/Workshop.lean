import WorkDispatch.Worker.Analyst
import WorkDispatch.Worker.Executor

/-!
Executions on a clock that moves only when it is told to. Every execution waits for something that is
due at a time, or at no time that is known, and its limit ends at a time; timers end on whole
milliseconds. `settle` lets everything happen that is due, the earliest arrival first, and what an
execution waits for before its limit. The clock of the breaker and the date move by a moment with
every event.
-/

set_option autoImplicit false

namespace WorkDispatch.Worker

/-- When an execution tells the coordinator how far it has come. -/
inductive Checkpoint
  | started | finished
  deriving DecidableEq

/-- What an execution waits for, and how long. -/
structure Waiting where
  number : Nat
  /-- When its limit ends. -/
  ends : Span
  /-- When what it waits for is there. -/
  due : Option Span
  /-- Whether it waits for a release. -/
  gated : Bool
  /-- How the call to the service will fail, if it will. -/
  failure : Option Failure

structure Workshop where
  executor : Executor
  analyst : Analyst
  /-- How long it takes an execution to tell the coordinator how far it has come. -/
  telling : Nat → Checkpoint → Span
  waiting : List Waiting
  /-- Whether the worker stops. -/
  cancelled : Bool
  clock : Span
  moment : Moment

namespace Workshop

/-- No time has passed and no task has arrived; the coordinator is told at an even pace. -/
def new (e : Executor) (a : Analyst) (telling : Span) (date : Instant) : Workshop :=
  ⟨e, a, fun _ _ => telling, [], false, .zero, ⟨date, .zero⟩⟩

/-- Something happens to the executions, a moment later. -/
def apply (w : Workshop) (e : Executor.Event) : Workshop :=
  let m : Moment := ⟨w.moment.date.plusNanos 1000, w.moment.clock + ⟨1000⟩⟩
  { w with executor := w.executor.apply m e, moment := m }

/-- An execution waits for something, or for nothing any more. -/
def await (w : Workshop) (x : Waiting) : Workshop :=
  if (w.executor.get? x.number).isSome then
    { w with waiting := w.waiting.map fun y => if y.number = x.number then x else y }
  else { w with waiting := w.waiting.filter fun y => y.number != x.number }

/-- A call to the service ends, or nobody waits for it any more. -/
def hangUp (w : Workshop) : Workshop := { w with analyst := w.analyst.finish }

/-- An execution asks the service. -/
def ask (w : Workshop) (x : Waiting) : Workshop :=
  let (b, a) := w.analyst.begin
  let w := { w with analyst := a }
  match b with
  | .answers => w.await { x with due := some w.clock }
  | .answersAfter s => w.await { x with due := some (w.clock + s.ceilMillis) }
  | .hangs => w.await { x with due := none }
  | .fails f => w.await { x with due := some w.clock, failure := some f }
  | .answersOnRelease =>
    if a.releases = 0 then w.await { x with due := none, gated := true }
    else
      { w with analyst := { a with releases := a.releases - 1 } }.await
        { x with due := some w.clock }

/-- What an execution waited for is there. -/
def proceed (w : Workshop) (x : Waiting) (work : Work) : Workshop :=
  let told : Waiting := { x with due := some (w.clock + (w.telling x.number .finished).ceilMillis) }
  match work with
  | .starting _ => (w.apply (.told x.number)).ask x
  | .asking q =>
    let r := match x.failure with
      | some f => .error f
      | none => q.findOffline w.moment.date
    (w.apply (.answered x.number r)).hangUp.await told
  | .finishing _ => (w.apply (.told x.number)).await x

/-- The limit of an execution ends. -/
def expire (w : Workshop) (x : Waiting) (work : Work) : Workshop :=
  let w := match work with
    | .asking _ => w.hangUp
    | _ => w
  (w.apply (.overdue x.number)).await x

/-- What happens next to an execution at this time, if anything does. -/
def stepOf? (w : Workshop) (x : Waiting) : Option Workshop :=
  match (w.executor.get? x.number).map Execution.stage with
  | some (.working _ work) =>
    if x.due.any (· ≤ w.clock) then some (w.proceed x work)
    else if x.ends ≤ w.clock then some (w.expire x work)
    else none
  | _ => none

/-- What happens next at this time, if anything does. -/
def step? (w : Workshop) : Option Workshop := w.waiting.findSome? w.stepOf?

/-- Lets so many things happen, or all that can. -/
def run : Nat → Workshop → Workshop
  | 0, w => w
  | fuel + 1, w =>
    match w.step? with
    | some w => run fuel w
    | none => w

/-- Lets everything happen that is due; an execution comes to its end in five steps at most. -/
def settle (w : Workshop) : Workshop := w.run (5 * w.waiting.length)

/-- A task arrives, and begins unless the worker stops; the number is that of its execution. -/
def arrive (w : Workshop) (t : Task) : Nat × Workshop :=
  let n := w.executor.arrived
  let w := w.apply (.arrive t)
  let w := if w.cancelled then w.apply (.cancel n) else w.apply (.begin n)
  match w.executor.get? n with
  | some x =>
    let told := w.clock + (w.telling n .started).ceilMillis
    let wait : Waiting := ⟨n, w.clock + x.limit.ceilMillis, some told, false, none⟩
    (n, { w with waiting := w.waiting ++ [wait] }.settle)
  | none => (n, w)

/-- Lets time pass. -/
def advance (w : Workshop) (s : Span) : Workshop := { w with clock := w.clock + s }.settle

/-- When the next timer ends. -/
def nextTimer? (w : Workshop) : Option Span :=
  (w.waiting.flatMap fun x => x.ends :: x.due.toList).foldl
    (fun best t => some (best.elim t (min t))) none

/-- Lets time pass, from one timer to the next, until an execution has ended. -/
def finish : Nat → Nat → Workshop → Workshop
  | 0, _, w => w
  | fuel + 1, n, w =>
    match w.executor.get? n, w.nextTimer? with
    | some _, some t => finish fuel n { w with clock := t }.settle
    | _, _ => w

/-- Executes a task to its end. Whenever a timer ends something happens to an execution, which is never more
than five times from its end. -/
def execute (w : Workshop) (t : Task) : Option TaskResult × Workshop :=
  let (n, w) := w.arrive t
  let w := w.finish (5 * (w.waiting.length + 1)) n
  (w.executor.result? n, w)

/-- Lets so many calls to the service go on that wait for a release. -/
def release (w : Workshop) (n : Nat) : Workshop :=
  let waiting := w.waiting.filter fun x => x.gated && x.due.isNone
  let freed := (waiting.take n).map Waiting.number
  let free := fun (x : Waiting) =>
    if freed.contains x.number then { x with due := some w.clock, gated := false } else x
  let a := { w.analyst with releases := w.analyst.releases + (n - waiting.length) }
  settle { w with analyst := a, waiting := w.waiting.map free }

/-- Stops an execution. -/
def stop (w : Workshop) (x : Execution) : Workshop :=
  let w := match x.stage with
    | .working _ (.asking _) => w.hangUp
    | _ => w
  w.apply (.cancel x.number)

/-- Stops the worker: every execution that has not ended is stopped. -/
def cancel (w : Workshop) : Workshop :=
  { w.executor.running.foldl stop w with cancelled := true, waiting := [] }

end Workshop

end WorkDispatch.Worker
