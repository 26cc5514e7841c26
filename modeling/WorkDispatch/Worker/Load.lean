import WorkDispatch.Worker.Executor

/-!
A book and the executions that use it at the same time. Each begins once, tells how far it has come as
often as it likes, and finishes once. What it does to the book it does in one step, under the id of its
task, and the steps of different executions come in any order.
-/

set_option autoImplicit false

namespace WorkDispatch.Worker

/-- What an execution does to a book. -/
inductive Visit
  | begin (t : Task) (now : Instant)
  /-- The execution of a number tells how far it has come. -/
  | progress (number : Nat) (percent : Int32)
  | finish (number : Nat) (succeeded : Bool)

structure Load where
  book : Book
  /-- The executions that have begun and not finished: the place of each among those that began, and the
  id of its task. -/
  underway : List (Nat × String)
  begun : Nat
  /-- How those that have finished came out, the latest first. -/
  outcomes : List Bool

namespace Load

/-- An empty book, which nobody uses. -/
def new : Load := ⟨.empty, [], 0, []⟩

/-- The ids of the tasks that are being worked on, as often as they are. -/
def ids (l : Load) : List String := l.underway.map Prod.snd

/-- The execution of a number, while it is under way. -/
def get? (l : Load) (number : Nat) : Option (Nat × String) := l.underway.find? fun x => x.1 == number

/-- What comes of a visit; one of an execution that is not under way changes nothing. -/
def apply (l : Load) : Visit → Load
  | .begin t now =>
    { l with
      book := l.book.begin t now
      underway := l.underway ++ [(l.begun, t.id)]
      begun := l.begun + 1 }
  | .progress number percent =>
    match l.get? number with
    | some x => { l with book := (l.book.updateProgress x.2 percent).2 }
    | none => l
  | .finish number succeeded =>
    match l.get? number with
    | some x =>
      { l with
        book := (l.book.finish x.2 succeeded).2
        underway := l.underway.filter fun x => x.1 != number
        outcomes := succeeded :: l.outcomes }
    | none => l

/-- What comes of visits, one after the other. -/
def applyAll (l : Load) (vs : List Visit) : Load := vs.foldl apply l

end Load

/-- The executions of an executor, as its book knows them. -/
def Executor.load (e : Executor) : Load where
  book := e.book
  underway := e.running.map fun x => (x.number, x.task.id)
  begun := e.arrived
  outcomes := e.ended.map fun p => p.2.status == .completed

end WorkDispatch.Worker
