import WorkDispatch.Bits
import WorkDispatch.Table
import WorkDispatch.Task

/-!
A worker's book of the tasks it is working on, and of how many ended well or not. A task is kept
under its id; beginning one whose id is in the book takes the place of that entry.
-/

set_option autoImplicit false

namespace WorkDispatch.Worker

/-- A task that a worker is working on. -/
structure ActiveTask where
  type : TaskType
  payload : Bytes
  startedAt : Instant
  /-- How far it has come, in hundredths as reported, whether or not of a whole. -/
  progress : Int32
  deriving DecidableEq

/-- How many tasks are being worked on, and how many ended well or not. -/
structure Counts where
  active : Nat
  completed : Nat
  failed : Nat
  deriving DecidableEq

/-- The load that the counts amount to, with what is known of the process. Counts beyond the range
of the load are the greatest of it. -/
def Counts.toStats (c : Counts) (memory uptime : UInt64) (health : Labels) : WorkerStats :=
  ⟨.ofNat (min c.active (Bits.count32 - 1)), .ofNat c.completed, .ofNat c.failed, memory, uptime, health⟩

structure Book where
  active : Table ActiveTask
  completed : Nat
  failed : Nat

namespace Book

/-- A book without entries. -/
def empty : Book := ⟨.empty, 0, 0⟩

def begin (b : Book) (t : Task) (now : Instant) : Book :=
  { b with active := b.active.put t.id ⟨t.type, t.payload, now, 0⟩ }

/-- The entry of a task. -/
def get? (b : Book) (id : String) : Option ActiveTask := b.active.get? id

/-- Notes how far a task has come, and says whether it is in the book. -/
def updateProgress (b : Book) (id : String) (percent : Int32) : Bool × Book :=
  match b.get? id with
  | some t => (true, { b with active := b.active.put id { t with progress := percent } })
  | none => (false, b)

/-- Counts an end and takes the entry of the task out. -/
def finish (b : Book) (id : String) (succeeded : Bool) : Option ActiveTask × Book :=
  (b.get? id,
    { active := b.active.erase id
      completed := if succeeded then b.completed + 1 else b.completed
      failed := if succeeded then b.failed else b.failed + 1 })

def counts (b : Book) : Counts := ⟨b.active.size, b.completed, b.failed⟩

end Book

end WorkDispatch.Worker
