import WorkDispatch.Queue.Basic
import WorkDispatch.Table

/-!
Waiting for a task. A waiter first asks to be told of changes, then looks at the queue, and parks when
nothing there suits; when it was told of a change it asks and looks again. Whoever changes the queue
tells the waiters afterwards, and only those that have asked by then are told. The steps of all of them
may come in any order.
-/

set_option autoImplicit false

namespace WorkDispatch

/-- What a waiter does next. -/
structure Waiter where
  /-- It has looked, and waits to be told. -/
  parked : Bool
  /-- It was told of a change since it asked. -/
  told : Bool
  deriving DecidableEq

namespace Waiter

/-- A waiter that has just asked to be told. -/
def asking : Waiter := ⟨false, false⟩

/-- It is told of a change. -/
def tell (w : Waiter) : Waiter := { w with told := true }

/-- It looked and found nothing. -/
def park (w : Waiter) : Waiter := { w with parked := true }

end Waiter

/-- A queue and those who wait for tasks of it. -/
structure Waiting where
  queue : Queue
  waiters : Table Waiter
  /-- How many have changed the queue and not yet told the waiters. -/
  telling : Nat

namespace Waiting

def empty (capacity : Nat) : Waiting := ⟨.empty capacity, .empty, 0⟩

/-! ## Steps -/

/-- Somebody begins to wait. -/
def ask (w : Waiting) (id : String) : Waiting := { w with waiters := w.waiters.put id .asking }

/-- A waiter that has asked looks for a task that suits. It leaves with one, or parks. -/
def look (w : Waiting) (id : String) (suits : Task → Bool) : Option Task × Waiting :=
  match w.waiters.get? id with
  | some ⟨false, told⟩ =>
    match w.queue.take suits with
    | (some t, q) => (some t, { w with queue := q, waiters := w.waiters.erase id })
    | (none, _) => (none, { w with waiters := w.waiters.put id ⟨true, told⟩ })
  | _ => (none, w)

/-- A parked waiter that was told asks again. -/
def wake (w : Waiting) (id : String) : Waiting :=
  match w.waiters.get? id with
  | some ⟨true, true⟩ => w.ask id
  | _ => w

/-- A waiter gives up. -/
def leave (w : Waiting) (id : String) : Waiting := { w with waiters := w.waiters.erase id }

/-- A task comes in; the waiters are told later. -/
def push (w : Waiting) (t : Task) : Except Failure (Nat × Waiting) :=
  match w.queue.enqueue t with
  | .ok (n, q) => .ok (n, { w with queue := q, telling := w.telling + 1 })
  | .error e => .error e

/-- A task comes back; the waiters are told later. -/
def pushBack (w : Waiting) (t : Task) : Waiting :=
  { w with queue := w.queue.requeue t, telling := w.telling + 1 }

/-- One that has changed the queue tells the waiters. -/
def tell (w : Waiting) : Waiting :=
  { w with waiters := w.waiters.mapValues Waiter.tell, telling := w.telling - 1 }

/-- The waiters are told although nothing has changed. -/
def wakeAll (w : Waiting) : Waiting := { w with waiters := w.waiters.mapValues Waiter.tell }

/-- A task leaves with somebody who does not wait. -/
def take (w : Waiting) (suits : Task → Bool) : Option Task × Waiting :=
  let (t, q) := w.queue.take suits
  (t, { w with queue := q })

/-! ## Steps in any order -/

/-- A step, of a waiter by its name or of somebody who does not wait. -/
inductive Step
  | ask (id : String)
  | look (id : String)
  | wake (id : String)
  | leave (id : String)
  | push (t : Task)
  | pushBack (t : Task)
  | tell
  | wakeAll
  | take (suits : Task → Bool)

/-- What comes of a step when `suits` says which tasks suit each waiter. One that cannot be taken
changes nothing; a name that waits does not begin to wait again. -/
def apply (suits : String → Task → Bool) (w : Waiting) : Step → Waiting
  | .ask id => if (w.waiters.get? id).isSome then w else w.ask id
  | .look id => (w.look id (suits id)).2
  | .wake id => w.wake id
  | .leave id => w.leave id
  | .push t =>
    match w.push t with
    | .ok (_, w) => w
    | .error _ => w
  | .pushBack t => w.pushBack t
  | .tell => w.tell
  | .wakeAll => w.wakeAll
  | .take p => (w.take p).2

/-- What comes of steps, one after the other. -/
def applyAll (suits : String → Task → Bool) (w : Waiting) (ss : List Step) : Waiting :=
  ss.foldl (apply suits) w

/-! ## Runs of one waiter -/

/-- A waiter looks as often as it was told, until it has a task or is parked. -/
def poll (w : Waiting) (id : String) (suits : Task → Bool) : Option Task × Waiting :=
  (w.wake id).look id suits

/-- Somebody begins to wait and looks. -/
def wait (w : Waiting) (id : String) (suits : Task → Bool) : Option Task × Waiting :=
  (w.ask id).look id suits

end Waiting

end WorkDispatch
