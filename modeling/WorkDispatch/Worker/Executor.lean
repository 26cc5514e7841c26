import WorkDispatch.Breaker.Basic
import WorkDispatch.Worker.Book
import WorkDispatch.Worker.Inquiry

/-!
How tasks are executed. An execution is in the book from its arrival to its end. Unless the deadline
of the task has passed, it comes to a breaker, and behind the breaker it tells the coordinator that
it started, asks the service, and tells that it is finished, all within a limit. Each of these waits
may end at any time: `Event` is everything that may happen to the executions, in any order, and one
that cannot happen changes nothing.

What comes of telling the coordinator does not matter, only that it is over. What the reader of payloads
says of one that it cannot read is given (`Executor.complaint`).
-/

set_option autoImplicit false

namespace WorkDispatch.Worker

/-- What an execution behind the breaker waits for. -/
inductive Work
  /-- To have told that it started. -/
  | starting (q : Inquiry)
  /-- The service. -/
  | asking (q : Inquiry)
  /-- To have told that it is finished. -/
  | finishing (f : Finding)
  deriving DecidableEq

/-- How far an execution has come. -/
inductive Stage
  | arrived
  /-- The breaker let it through at a moment. -/
  | working (since : Span) (w : Work)
  deriving DecidableEq

structure Execution where
  /-- Its place among those that arrived. -/
  number : Nat
  task : Task
  startedAt : Instant
  /-- How long it may take behind the breaker. -/
  limit : Span
  stage : Stage
  deriving DecidableEq

/-- When something happens: the date, and the clock of the breaker. -/
structure Moment where
  date : Instant
  clock : Span

structure Executor where
  workerId : String
  taskTimeout : Span
  /-- What the reader says of a payload that it cannot read, for the type of its task. -/
  complaint : TaskType → Bytes → String
  breaker : Breaker
  book : Book
  /-- The executions that have not ended, in the order of their arrival. -/
  running : List Execution
  /-- The results of those that have, the latest first. -/
  ended : List (Nat × TaskResult)
  /-- How many executions arrived. -/
  arrived : Nat

namespace Executor

def new (workerId : String) (taskTimeout : Span) (c : Breaker.Config)
    (complaint : TaskType → Bytes → String := fun _ _ => "") : Executor :=
  ⟨workerId, taskTimeout, complaint, .new "task_processing" c, .empty, [], [], 0⟩

/-- The execution of a number, while it has not ended. -/
def get? (e : Executor) (number : Nat) : Option Execution :=
  e.running.find? fun x => x.number == number

/-- The result of an execution that has ended. -/
def result? (e : Executor) (number : Nat) : Option TaskResult := e.ended.lookup number

/-- How long the work on a task may take: as long as any, but not beyond its deadline. -/
def limit (e : Executor) (t : Task) (date : Instant) : Span :=
  match t.deadline with
  | some d => if 0 ≤ d.since date then min ⟨(d.since date).toNat⟩ e.taskTimeout else e.taskTimeout
  | none => e.taskTimeout

/-- How the end of an execution is reported. -/
def resultOf (e : Executor) (x : Execution) (date : Instant) : Except Failure Finding → TaskResult
  | .ok f => ⟨x.task.id, e.workerId, .completed, f.encode, "", some x.startedAt, some date⟩
  | .error f =>
    let status := match f.root with
      | .cancelled _ => .cancelled
      | _ => .failed
    ⟨x.task.id, e.workerId, status, [], f.message, some x.startedAt, some date⟩

/-- An execution ends. -/
def conclude (e : Executor) (m : Moment) (x : Execution) (r : Except Failure Finding) : Executor :=
  { e with
    book := (e.book.finish x.task.id r.isOk).2
    running := e.running.filter fun y => y.number != x.number
    ended := (x.number, e.resultOf x m.date r) :: e.ended }

/-- An execution that the breaker let through ends, and the breaker is told how. -/
def settle (e : Executor) (m : Moment) (since : Span) (x : Execution) (r : Except Failure Finding) :
    Executor :=
  let took : Span := ⟨m.clock.nanoseconds - since.nanoseconds⟩
  let b := if r.isOk then e.breaker.recordSuccess took else e.breaker.recordFailure m.clock took
  { e with breaker := b }.conclude m x r

/-- An execution goes on to other work. -/
def goOn (e : Executor) (x : Execution) (since : Span) (w : Work) : Executor :=
  { e with running := e.running.map fun y =>
      if y.number = x.number then { y with stage := .working since w } else y }

/-- Notes in the book how far an execution has come. -/
def note (e : Executor) (x : Execution) (percent : Int32) : Executor :=
  { e with book := (e.book.updateProgress x.task.id percent).2 }

/-- A task arrives. It is in the book at once, and ends at once when its deadline has passed. -/
def arrive (e : Executor) (m : Moment) (t : Task) : Executor :=
  let x : Execution := ⟨e.arrived, t, m.date, e.limit t m.date, .arrived⟩
  let e := { e with book := e.book.begin t m.date, arrived := e.arrived + 1 }
  if t.isPastDeadline m.date then
    e.conclude m x (.error (.deadlineExceeded ("task " ++ t.id ++ " arrived after its deadline")))
  else { e with running := e.running ++ [x] }

/-- An execution comes to the breaker, and behind it to what its task asks for. -/
def begin (e : Executor) (m : Moment) (x : Execution) : Executor :=
  let (allowed, b) := e.breaker.arrive m.clock
  let e := { e with breaker := b }
  if !allowed then e.conclude m x (.error (.circuitOpen b.name))
  else
    match Inquiry.ofTask x.task with
    | .error f =>
      e.settle m m.clock x (.error (f.toFailure (e.complaint x.task.type x.task.payload)))
    | .ok q => (e.goOn x m.clock (.starting q)).note x 25

/-- The failure of an execution that took too long. -/
def overdue (x : Execution) : Failure :=
  .deadlineExceeded ("task " ++ x.task.id ++ " did not finish within " ++ x.limit.text)

/-- The failure of an execution that was stopped. -/
def stopped (x : Execution) : Failure :=
  .cancelled ("worker shutting down during task " ++ x.task.id)

inductive Event
  | arrive (t : Task)
  /-- An execution that arrived comes to the breaker. -/
  | begin (number : Nat)
  /-- The coordinator was told, or could not be. -/
  | told (number : Nat)
  /-- The service ended. -/
  | answered (number : Nat) (r : Except Failure Finding)
  /-- The limit passed. -/
  | overdue (number : Nat)
  /-- The worker stops. -/
  | cancel (number : Nat)

/-- What comes of an event at a moment. -/
def apply (e : Executor) (m : Moment) : Event → Executor
  | .arrive t => e.arrive m t
  | .begin n =>
    match e.get? n with
    | some x => if x.stage = .arrived then e.begin m x else e
    | none => e
  | .told n =>
    match e.get? n with
    | some x =>
      match x.stage with
      | .working since (.starting q) => e.goOn x since (.asking q)
      | .working since (.finishing f) => e.settle m since x (.ok f)
      | _ => e
    | none => e
  | .answered n r =>
    match e.get? n with
    | some x =>
      match x.stage, r with
      | .working since (.asking _), .ok f => (e.goOn x since (.finishing f)).note x 100
      | .working since (.asking _), .error f => e.settle m since x (.error f)
      | _, _ => e
    | none => e
  | .overdue n =>
    match e.get? n with
    | some x =>
      match x.stage with
      | .working since _ => e.settle m since x (.error (Executor.overdue x))
      | .arrived => e
    | none => e
  | .cancel n =>
    match e.get? n with
    | some x => e.conclude m x (.error (stopped x))
    | none => e

/-- What comes of events at their moments. -/
def applyAll (e : Executor) (es : List (Moment × Event)) : Executor :=
  es.foldl (fun e p => e.apply p.1 p.2) e

end Executor

end WorkDispatch.Worker
