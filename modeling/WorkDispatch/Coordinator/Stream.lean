import WorkDispatch.Failure
import WorkDispatch.Queue.Waiting
import WorkDispatch.Time.Span

/-!
Streams of tasks to workers. A stream is a bounded buffer which the worker reads, and a loop that feeds
it from the queue. The loop is in one of the phases of `Stream.Phase`; in `delivering` and
`returning` it has a task in its hand.
-/

set_option autoImplicit false

namespace WorkDispatch.Coordinator

/-- Why the loop of a stream ended. -/
inductive Ending
  | shuttingDown
  /-- The worker went away. -/
  | leftByWorker
  /-- The worker went away while a task was being delivered. -/
  | failedDelivery
  deriving DecidableEq

def Ending.toFailure : Ending → Failure
  | .shuttingDown => .notConnected "coordinator is shutting down"
  | .leftByWorker => .cancelled "task stream closed by worker"
  | .failedDelivery => .cancelled "task stream closed during delivery"

namespace Stream

/-- Whether a buffer can have room for so many tasks: for one at least, and their number has 61 bits. -/
def fits (room : Nat) : Bool := 1 ≤ room && decide (room < Bits.count61)

/-- What the loop of a stream does next. -/
inductive Phase
  /-- There is no loop yet. -/
  | opened
  /-- It asks whether the worker is active. -/
  | checking
  /-- It begins to wait: for a task, or until it asks again about a worker that is not active. -/
  | choosing
  /-- It asks again at a time. -/
  | holding (time : Span)
  /-- It waits for a task. -/
  | waiting (w : Waiter)
  /-- It has a task for the worker. -/
  | delivering (t : Task)
  /-- It has a task that goes back to the queue. -/
  | returning (t : Task)
  /-- The task is back, and it asks why it was not delivered. -/
  | returned
  /-- It gives its stream up. -/
  | leaving (e : Ending)
  /-- It tells the worker that it ended. -/
  | announcing (e : Ending)
  | ended (e : Ending)
  deriving DecidableEq

end Stream

/-- What a worker reads from its stream. -/
inductive Delivery
  | task (t : Task)
  | status (s : Status)
  deriving DecidableEq

/-- A stream of tasks. -/
structure Stream where
  workerId : String
  /-- What the worker could do when the stream was opened. -/
  capabilities : CapabilitySet
  /-- How much the buffer holds. -/
  room : Nat
  buffer : List Delivery
  /-- Whether the worker is there to read. -/
  isOpen : Bool
  /-- Whether a worker that is there is told that the coordinator shuts down. -/
  announces : Bool
  phase : Stream.Phase
  deriving DecidableEq

namespace Stream

/-- The task in the hand of the loop. -/
def hand (s : Stream) : Option Task :=
  match s.phase with
  | .delivering t | .returning t => some t
  | _ => none

/-- Whether the buffer can take something more. -/
def hasRoom (s : Stream) : Bool := s.isOpen && s.buffer.length < s.room

/-- What was found when the worker looked into its stream. -/
inductive Reading
  | delivery (d : Delivery)
  /-- There may be something later. -/
  | empty
  /-- There will be nothing more. -/
  | closed
  /-- The worker has gone away. -/
  | dropped
  deriving DecidableEq

/-- Nobody is left who could put something into the buffer. -/
def isOver (s : Stream) : Bool :=
  match s.phase with
  | .ended _ => true
  | _ => false

/-- The worker reads what comes first. -/
def receive (s : Stream) : Reading × Stream :=
  if s.isOpen then
    match s.buffer with
    | d :: ds => (.delivery d, { s with buffer := ds })
    | [] => (if s.isOver then .closed else .empty, s)
  else (.dropped, s)

/-- The worker goes away, and what it has not read is gone. -/
def close (s : Stream) : Stream := { s with isOpen := false, buffer := [] }

/-- Something is put into the buffer. -/
def put (s : Stream) (d : Delivery) : Stream := { s with buffer := s.buffer ++ [d] }

/-- A loop that waits is told of a change. -/
def tell (s : Stream) : Stream :=
  match s.phase with
  | .waiting w => { s with phase := .waiting w.tell }
  | _ => s

end Stream

end WorkDispatch.Coordinator
