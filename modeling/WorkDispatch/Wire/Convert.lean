import WorkDispatch.Bits
import WorkDispatch.Task
import WorkDispatch.Wire.Protocol

/-!
Between the values of the system and the messages that carry them. A number that names no member of
a vocabulary counts as unspecified, or is dropped from a set of capabilities, so that a newer peer
is understood as far as it can be; counters are clamped to the range of the other side.
-/

set_option autoImplicit false

namespace WorkDispatch.Wire

namespace Timestamp

def ofInstant (i : Instant) : Timestamp := ⟨Int64.ofInt i.seconds, Int32.ofInt i.nanos⟩

/-- The point that a timestamp denotes, when it denotes one. -/
def toInstant? (t : Timestamp) : Option Instant :=
  if t.nanos < 0 then none else Instant.ofUnix? t.seconds.toInt t.nanos.toInt.toNat

end Timestamp

/-- The point that a field denotes, when it was written and denotes one. -/
def instant? (t : Option Timestamp) : Option Instant := t.bind Timestamp.toInstant?

/-- The number of a member. -/
def numberOf {α : Type} [Named α] [DecidableEq α] (a : α) : Int32 := Int32.ofInt (Named.number a)

/-- The member of a number. -/
def memberOf? {α : Type} [Named α] (n : Int32) : Option α := Named.ofNumber? n.toInt

def workerStatusOf (n : Int32) : WorkerStatus := (memberOf? n).getD .unspecified
def taskTypeOf (n : Int32) : TaskType := (memberOf? n).getD .unspecified
def taskStatusOf (n : Int32) : TaskStatus := (memberOf? n).getD .unspecified

/-- The capabilities among the numbers. -/
def capabilitiesOf (ns : List Int32) : CapabilitySet := .ofList (ns.filterMap memberOf?)

/-- The numbers of a set, ascending. -/
def capabilityNumbers (s : CapabilitySet) : List Int32 := s.toList.map numberOf

/-! ## Counters -/

/-- A count that may be negative on the wire. -/
def count32 (n : Int32) : UInt32 := UInt32.ofNat n.toInt.toNat
def count64 (n : Int64) : UInt64 := UInt64.ofNat n.toInt.toNat

/-- A count that may be too large for the wire. -/
def clamp32 (n : UInt32) : Int32 := Int32.ofInt (min n.toNat (Bits.count31 - 1) : Nat)
def clamp64 (n : UInt64) : Int64 := Int64.ofInt (min n.toNat (Bits.count63 - 1) : Nat)

namespace Stats

def ofStats (s : WorkerStats) : Stats :=
  ⟨clamp32 s.activeTasks, clamp64 s.completedTasks, clamp64 s.failedTasks,
    clamp64 s.memoryUsageBytes, clamp64 s.uptimeSeconds, s.serviceHealth⟩

def toStats (s : Stats) : WorkerStats :=
  ⟨count32 s.activeTasks, count64 s.completedTasks, count64 s.failedTasks,
    count64 s.memoryUsageBytes, count64 s.uptimeSeconds, s.serviceHealth⟩

end Stats

namespace TaskItem

def ofTask (t : Task) : TaskItem :=
  ⟨t.id, numberOf t.type, t.payload, t.priority, t.deadline.map .ofInstant, t.metadata,
    some (.ofInstant t.createdAt)⟩

/-- The task of an item; one that does not say when it was made counts as made now. -/
def toTask (i : TaskItem) (now : Instant) : Task :=
  ⟨i.taskId, taskTypeOf i.taskType, i.payload, i.priority, instant? i.deadline, i.metadata,
    (instant? i.createdAt).getD now⟩

end TaskItem

namespace ResultRequest

def ofResult (r : TaskResult) : ResultRequest :=
  ⟨r.taskId, r.workerId, numberOf r.status, r.result, r.errorMessage, r.startedAt.map .ofInstant,
    r.completedAt.map .ofInstant⟩

def toResult (r : ResultRequest) : TaskResult :=
  ⟨r.taskId, r.workerId, taskStatusOf r.status, r.result, r.errorMessage, instant? r.startedAt,
    instant? r.completedAt⟩

end ResultRequest

end WorkDispatch.Wire
