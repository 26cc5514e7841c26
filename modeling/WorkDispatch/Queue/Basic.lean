import WorkDispatch.Bits
import WorkDispatch.Failure
import WorkDispatch.Task

/-!
The queue of tasks. It is bounded for those who bring tasks and not for those who bring one back.
Whoever takes a task takes the first that suits, so tasks that suit the same takers leave in their
order.
-/

set_option autoImplicit false

namespace WorkDispatch

/-- Tasks that wait, the first to leave first. -/
structure Queue where
  capacity : Nat
  tasks : List Task
  deriving DecidableEq

namespace Queue

/-- A queue without tasks. -/
def empty (capacity : Nat) : Queue := ⟨capacity, []⟩

/-- Whether memory can hold a queue of a capacity. It takes 128 bytes a task, and bytes are counted in
63 bits. -/
def fits (capacity : Nat) : Bool := decide (capacity < Bits.count56)

def size (q : Queue) : Nat := q.tasks.length

/-- A task comes in at the end, if there is room; the answer is how many there are then. -/
def enqueue (q : Queue) (t : Task) : Except Failure (Nat × Queue) :=
  if q.capacity ≤ q.size then .error (.queueFull q.capacity)
  else .ok (q.size + 1, { q with tasks := q.tasks ++ [t] })

/-- A task that could not be delivered comes back to the front, whether or not there is room. -/
def requeue (q : Queue) (t : Task) : Queue := { q with tasks := t :: q.tasks }

/-- The first task that suits leaves. -/
def take (q : Queue) (suits : Task → Bool) : Option Task × Queue :=
  (q.tasks.find? suits, { q with tasks := q.tasks.eraseP suits })

/-- A list without the first thing that suits of those behind the first few. -/
def eraseAfter {α : Type} (passed : Nat) (suits : α → Bool) (xs : List α) : List α :=
  xs.take passed ++ (xs.drop passed).eraseP suits

/-- Erasing is a matter of what is looked for. -/
theorem eraseAfter_map {α β : Type} (f : α → β) (passed : Nat) (suits : β → Bool) (xs : List α) :
    eraseAfter passed suits (xs.map f) = (eraseAfter passed (suits ∘ f) xs).map f := by
  simp only [eraseAfter, ← List.map_take, ← List.map_drop, List.eraseP_map, List.map_append]

/-- Nothing comes in and nothing changes its place by erasing. -/
theorem eraseAfter_sublist {α : Type} (passed : Nat) (suits : α → Bool) (xs : List α) :
    (eraseAfter passed suits xs).Sublist xs := by
  have kept : (eraseAfter passed suits xs).Sublist (xs.take passed ++ xs.drop passed) :=
    List.eraseP_sublist.append_left (xs.take passed)
  rwa [List.take_append_drop] at kept

/-- The first task that suits of those behind the first few leaves. -/
def takeAfter (q : Queue) (passed : Nat) (suits : Task → Bool) : Option Task × Queue :=
  ((q.tasks.drop passed).find? suits, { q with tasks := eraseAfter passed suits q.tasks })

@[simp] theorem tasks_requeue (q : Queue) (t : Task) : (q.requeue t).tasks = t :: q.tasks := rfl

/-- When none was passed over, all are looked at. -/
@[simp] theorem takeAfter_zero (q : Queue) (suits : Task → Bool) :
    q.takeAfter 0 suits = q.take suits := rfl

end Queue

end WorkDispatch
