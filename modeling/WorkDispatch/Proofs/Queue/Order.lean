import Mathlib.Data.List.Induction
import WorkDispatch.Coordinator.Dispatch

/-!
# The order in which tasks leave a queue

A task comes in at the end and is taken from wherever it stands, so a queue is what was admitted and has
not left, in the order in which it was admitted. That is `Orderly`, which every call keeps. The first
task that suits is then the earliest of those that suit, and takers who look at the type only take the
tasks of one type in the order in which they came in: `takes_earliest`.

Tasks may be equal, so a `Course` numbers what is admitted, and the number goes with the task.

Nobody brings a task back here. A task that comes back goes to the front, wherever it came from.
-/

set_option autoImplicit false

namespace WorkDispatch.Queue

/-- What is done to a queue by those who bring no task back. -/
inductive Call
  | enqueue (t : Task)
  | take (suits : Task → Bool)

/-- A condition on tasks that looks at the type only. -/
def OnType (p : Task → Bool) : Prop := ∀ t u : Task, t.type = u.type → p t = p u

/-- A call that takes a task takes it by its type. -/
def Call.ByType : Call → Prop
  | .enqueue _ => True
  | .take p => OnType p

/-- What a worker can do is a matter of types. -/
theorem onType_suits (c : Coordinator) (s : Coordinator.Stream) : OnType (c.suits s) := by
  intro t u same
  simp only [Coordinator.suits, same]

/-- Where a task that was found stands: nothing before it suits. -/
theorem exists_split {xs : List (Task × Nat)} {p : Task → Bool} {x : Task × Nat}
    (h : xs.find? (p ∘ Prod.fst) = some x) :
    p x.1 = true ∧ ∃ older younger, xs = older ++ x :: younger ∧
      (∀ y ∈ older, p y.1 = false) ∧ xs.eraseP (p ∘ Prod.fst) = older ++ younger := by
  obtain ⟨suits, older, younger, split, none⟩ := List.find?_eq_some_iff_append.mp h
  have unsuited : ∀ y ∈ older, p y.1 = false := fun y hy => by simpa using none y hy
  refine ⟨suits, older, younger, split, unsuited, ?_⟩
  rw [split, List.eraseP_append_right, List.eraseP_cons_of_pos suits]
  intro y hy
  simp only [Function.comp_apply, unsuited y hy, Bool.false_eq_true, not_false_eq_true]

/-- A queue with what came into it and what has left. -/
structure Course where
  queue : Queue
  /-- All tasks that were admitted; the place of one is its number. -/
  admitted : List Task
  /-- The tasks of the queue, each with its number. -/
  queued : List (Task × Nat)
  /-- The tasks that were taken, in the order in which they were. -/
  left : List (Task × Nat)

namespace Course

def start (capacity : Nat) : Course := ⟨.empty capacity, [], [], []⟩

/-- What comes of a call. -/
def next (k : Course) : Call → Course
  | .enqueue t =>
    match k.queue.enqueue t with
    | .ok (_, q) =>
      { k with
        queue := q
        admitted := k.admitted ++ [t]
        queued := k.queued ++ [(t, k.admitted.length)] }
    | .error _ => k
  | .take p =>
    { k with
      queue := (k.queue.take p).2
      queued := k.queued.eraseP (p ∘ Prod.fst)
      left := k.left ++ (k.queued.find? (p ∘ Prod.fst)).toList }

def run (k : Course) (calls : List Call) : Course := calls.foldl next k

/-- What was admitted and has not left, in the order of admission. -/
def waiting (k : Course) : List (Task × Nat) := k.admitted.zipIdx.filter (· ∉ k.left)

/-- Of the tasks that wait and suit, this one was admitted before the others. -/
structure IsEarliest (k : Course) (p : Task → Bool) (x : Task × Nat) : Prop where
  waits : x ∈ k.waiting
  suits : p x.1 = true
  first : ∀ y ∈ k.waiting, p y.1 = true → x.2 ≤ y.2

/-- The queue is what waits, in order. -/
structure Orderly (k : Course) : Prop where
  tasks : k.queue.tasks = k.queued.map Prod.fst
  queued : k.queued = k.waiting
  left : ∀ x ∈ k.left, x ∈ k.admitted.zipIdx

variable {k : Course} {p : Task → Bool} {x : Task × Nat}

/-- Those that wait have numbers in ascending order. -/
theorem pairwise_waiting (k : Course) : k.waiting.Pairwise fun x y => x.2 < y.2 := by
  have numbers : (k.admitted.zipIdx.map Prod.snd).Pairwise (· < ·) := by
    rw [List.zipIdx_map_snd]
    exact List.pairwise_lt_range' 1
  exact (List.pairwise_map.mp numbers).sublist List.filter_sublist

/-- Without one task that waits, the others wait in their order. -/
theorem filter_ne_waiting {older younger : List (Task × Nat)} (h : k.waiting = older ++ x :: younger) :
    k.waiting.filter (· ≠ x) = older ++ younger := by
  have once := h ▸ k.pairwise_waiting
  obtain ⟨-, after, before⟩ := List.pairwise_append.mp once
  have older_ne : ∀ y ∈ older, decide (y ≠ x) = true := fun y hy =>
    decide_eq_true fun eq => Nat.lt_irrefl x.2 (eq ▸ before y hy x List.mem_cons_self)
  have younger_ne : ∀ y ∈ younger, decide (y ≠ x) = true := fun y hy =>
    decide_eq_true fun eq => Nat.lt_irrefl x.2 (List.rel_of_pairwise_cons after (eq ▸ hy))
  rw [h, List.filter_append, List.filter_cons_of_neg (by simp), List.filter_eq_self.mpr older_ne,
    List.filter_eq_self.mpr younger_ne]

/-- One that is taken does not wait any more. -/
theorem waiting_next_take (found : k.queued.find? (p ∘ Prod.fst) = some x) :
    (k.next (.take p)).waiting = k.waiting.filter (· ≠ x) := by
  simp only [next, waiting, found, Option.toList_some, List.filter_filter]
  refine List.filter_congr fun y _ => ?_
  simp only [List.mem_append, List.mem_singleton, not_or, Bool.decide_and, Bool.and_comm, ne_eq]

namespace Orderly

/-- The queue takes what is found among the numbered tasks. -/
theorem take_fst (h : k.Orderly) (p : Task → Bool) :
    (k.queue.take p).1 = (k.queued.find? (p ∘ Prod.fst)).map Prod.fst := by
  simp only [take, h.tasks, List.find?_map]

/-- After a take the queue has the tasks that the course says. -/
theorem tasks_next_take (h : k.Orderly) (p : Task → Bool) :
    (k.next (.take p)).queue.tasks = (k.next (.take p)).queued.map Prod.fst := by
  simp only [next, take, h.tasks, List.eraseP_map]

/-- What a take finds was admitted before all others that it could have found. -/
theorem isEarliest (h : k.Orderly) (found : k.queued.find? (p ∘ Prod.fst) = some x) :
    k.IsEarliest p x := by
  obtain ⟨suits, older, younger, split, unsuited, -⟩ := exists_split found
  rw [h.queued] at split
  refine ⟨split ▸ List.mem_append_right _ List.mem_cons_self, suits, fun y hy suits => ?_⟩
  have order := split ▸ k.pairwise_waiting
  rcases List.mem_append.mp (split ▸ hy) with hy | hy
  · rw [unsuited y hy] at suits
    cases suits
  · rcases List.mem_cons.mp hy with rfl | hy
    · exact Nat.le_refl _
    · exact Nat.le_of_lt (List.rel_of_pairwise_cons (List.pairwise_append.mp order).2.1 hy)

/-! ## One call -/

/-- A task that is admitted leaves the course in order. -/
theorem enqueue (h : k.Orderly) (t : Task) : (k.next (.enqueue t)).Orderly := by
  unfold next Queue.enqueue
  by_cases full : k.queue.capacity ≤ k.queue.size
  · simp only [full, if_true]
    exact h
  · simp only [full, if_false]
    have fresh : (t, k.admitted.length) ∉ k.left := fun old =>
      Nat.lt_irrefl _ (List.snd_lt_of_mem_zipIdx (h.left _ old))
    refine ⟨?_, ?_, fun x hx => ?_⟩
    · simp only [h.tasks, List.map_append, List.map_cons, List.map_nil]
    · simp only [waiting, List.zipIdx_append, List.filter_append, h.queued, List.zipIdx_cons,
        List.zipIdx_nil, Nat.zero_add, List.filter_cons, fresh, not_false_eq_true, decide_true, if_true,
        List.filter_nil]
    · simp only [List.zipIdx_append]
      exact List.mem_append_left _ (h.left x hx)

/-- So does one that is taken. -/
theorem take (h : k.Orderly) (p : Task → Bool) : (k.next (.take p)).Orderly := by
  refine ⟨h.tasks_next_take p, ?_, ?_⟩
  · cases found : k.queued.find? (p ∘ Prod.fst) with
    | none =>
      simp only [next, waiting, found, Option.toList_none, List.append_nil,
        List.eraseP_of_forall_not (List.find?_eq_none.mp found)]
      exact h.queued
    | some x =>
      obtain ⟨-, older, younger, split, -, rest⟩ := exists_split found
      rw [waiting_next_take found, filter_ne_waiting (h.queued ▸ split)]
      exact rest
  · intro x hx
    rcases List.mem_append.mp hx with hx | hx
    · exact h.left x hx
    · have found : x ∈ k.queued := List.mem_of_find?_eq_some (Option.mem_toList.mp hx)
      exact (List.mem_filter.mp (h.queued ▸ found)).1

end Orderly

/-- In every run the course is in order. -/
theorem orderly_run (capacity : Nat) (calls : List Call) : ((start capacity).run calls).Orderly := by
  induction calls using List.reverseRecOn with
  | nil => exact ⟨rfl, rfl, fun x hx => absurd hx List.not_mem_nil⟩
  | append_singleton calls c ih =>
    rw [run, List.foldl_append]
    cases c with
    | enqueue t => exact ih.enqueue t
    | take p => exact ih.take p

/-! ## The tasks of one type -/

/-- The tasks of a type that have left, and then those that wait, are all that were admitted. -/
def InTurn (k : Course) (type : TaskType) : Prop :=
  k.left.filter (·.1.type = type) ++ k.waiting.filter (·.1.type = type) =
    k.admitted.zipIdx.filter (·.1.type = type)

/-- A task that is admitted has its turn after all of its type. -/
theorem InTurn.enqueue {type : TaskType} (h : k.Orderly) (turn : k.InTurn type) (t : Task) :
    (k.next (.enqueue t)).InTurn type := by
  unfold InTurn at turn ⊢
  rw [← (h.enqueue t).queued]
  unfold next Queue.enqueue
  by_cases full : k.queue.capacity ≤ k.queue.size
  · simp only [full, if_true, h.queued, turn]
  · simp only [full, if_false, List.filter_append, List.zipIdx_append, ← turn, h.queued,
      List.append_assoc, List.zipIdx_cons, List.zipIdx_nil, Nat.zero_add]

/-- The first task of its type is what a taker finds who looks at the type. -/
theorem InTurn.take {type : TaskType} (h : k.Orderly) (turn : k.InTurn type) (hp : OnType p) :
    (k.next (.take p)).InTurn type := by
  unfold InTurn at turn ⊢
  rw [← h.queued] at turn
  rw [← (h.take p).queued]
  cases found : k.queued.find? (p ∘ Prod.fst) with
  | none =>
    simp only [next, found, Option.toList_none, List.append_nil,
      List.eraseP_of_forall_not (List.find?_eq_none.mp found), turn]
  | some x =>
    obtain ⟨suits, older, younger, split, unsuited, rest⟩ := exists_split found
    rw [split] at turn
    simp only [next, found, Option.toList_some, rest, ← turn, List.filter_append, List.append_assoc]
    by_cases same : x.1.type = type
    · have none : older.filter (·.1.type = type) = [] := by
        refine List.filter_eq_nil_iff.mpr fun y hy same' => ?_
        have alike := hp x.1 y.1 (same.trans (of_decide_eq_true same').symm)
        rw [suits, unsuited y hy] at alike
        cases alike
      simp only [none, List.filter_cons, same, decide_true, if_true, List.filter_nil, List.nil_append,
        List.singleton_append]
    · simp only [List.filter_cons, same, decide_false, Bool.false_eq_true, if_false, List.filter_nil,
        List.nil_append]

/-- When all takers go by types, each type leaves in the order in which it came. -/
theorem inTurn_run {calls : List Call} (h : ∀ c ∈ calls, c.ByType) (capacity : Nat) (type : TaskType) :
    ((start capacity).run calls).InTurn type := by
  induction calls using List.reverseRecOn with
  | nil => rfl
  | append_singleton calls c ih =>
    have turn := ih fun d hd => h d (List.mem_append_left _ hd)
    have orderly := orderly_run capacity calls
    have byType := h c (List.mem_append_right _ (List.mem_singleton_self c))
    rw [run, List.foldl_append]
    cases c with
    | enqueue t => exact turn.enqueue orderly t
    | take p => exact turn.take orderly byType

end Course

/-- However tasks come in and are taken, the queue has what was admitted and has not left, in the order
of admission. Whoever takes a task gets the earliest that suits him, and nothing only if none does; all
others stay in their order. Where everybody looks at the type only, as every loop does, the tasks of a
type leave in the order in which they were admitted. -/
theorem takes_earliest (capacity : Nat) (calls : List Call) :
    let k := (Course.start capacity).run calls
    k.queue.tasks = k.waiting.map Prod.fst ∧
    (∀ p, ((k.queue.take p).1 = none ↔ ∀ x ∈ k.waiting, p x.1 = false) ∧
      ∀ t, (k.queue.take p).1 = some t → ∃ x, k.IsEarliest p x ∧ x.1 = t ∧
        (k.next (.take p)).left = k.left ++ [x] ∧
        (k.queue.take p).2.tasks = (k.waiting.filter (· ≠ x)).map Prod.fst) ∧
    ((∀ c ∈ calls, c.ByType) → ∀ type, k.InTurn type) ∧
    ∀ (c : Coordinator) (s : Coordinator.Stream), OnType (c.suits s) := by
  intro k
  have orderly : k.Orderly := Course.orderly_run capacity calls
  refine ⟨orderly.queued ▸ orderly.tasks, fun p => ⟨?_, fun t taken => ?_⟩,
    fun byType type => Course.inTurn_run byType capacity type, onType_suits⟩
  · rw [orderly.take_fst, Option.map_eq_none_iff, List.find?_eq_none, orderly.queued]
    simp only [Function.comp_apply, Bool.not_eq_true]
  · rw [orderly.take_fst] at taken
    obtain ⟨x, found, rfl⟩ := Option.map_eq_some_iff.mp taken
    refine ⟨x, orderly.isEarliest found, rfl, ?_, ?_⟩
    · simp only [Course.next, found, Option.toList_some]
    · rw [← Course.waiting_next_take found, ← (orderly.take p).queued]
      exact orderly.tasks_next_take p

/-- Three tasks of two types come in, and takers of either type take by turns. -/
def turns : List Call :=
  [.enqueue (.plain "a" .cleanup [] .epoch), .enqueue (.plain "b" .weeklyReport [] .epoch),
    .take fun t => t.type == .weeklyReport, .enqueue (.plain "c" .cleanup [] .epoch),
    .take fun t => t.type == .cleanup, .take fun t => t.type == .weeklyReport]

/-- Each taker gets the oldest task of its type, and the last one gets none. -/
theorem takes_earliest_turns :
    (∀ c ∈ turns, c.ByType) ∧ ((Course.start 2).run turns).InTurn .cleanup ∧
      ((Course.start 2).run turns).left.map (·.2) = [1, 0] := by
  have byType : ∀ c ∈ turns, c.ByType := by
    simp only [turns, List.forall_mem_cons, Call.ByType, true_and]
    refine ⟨?_, ?_, ?_, fun _ none => absurd none List.not_mem_nil⟩ <;>
    · intro t u same
      simp only [same]
  exact ⟨byType, (takes_earliest 2 turns).2.2.1 byType .cleanup, by decide +kernel⟩

end WorkDispatch.Queue
