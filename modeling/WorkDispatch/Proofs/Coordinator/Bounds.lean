import WorkDispatch.Proofs.Coordinator.Moves
import WorkDispatch.Proofs.Coordinator.Unsent

/-!
# How long the queue gets

The queue is bounded for those who bring a task and not for a loop that puts one back, so it may be
longer than its capacity. By how much hangs on what the loops hold: a task in a hand has left a place in
the queue that is filled again before the task comes back. What is bounded is therefore the queue and
the hands together. Only a task that comes in makes these more (`load_next`), and it comes in while there
is room.

`queue_bounded` says that with so many tasks in hands at most, at any time, the queue is longer than its
capacity by no more than these, and by none at all as long as nothing is put back.
-/

set_option autoImplicit false

namespace WorkDispatch

/-! ## Bringing a task -/

namespace Queue

variable {q : Queue} {t : Task}

/-- A queue with room takes a task. -/
theorem enqueue_of_room (room : q.size < q.capacity) :
    q.enqueue t = .ok (q.size + 1, { q with tasks := q.tasks ++ [t] }) :=
  if_neg (Nat.not_le.mpr room)

/-- A full queue refuses one and says how many it holds. -/
theorem enqueue_of_full (full : q.capacity ≤ q.size) :
    q.enqueue t = .error (.queueFull q.capacity) :=
  if_pos full

end Queue

namespace Coordinator

/-- The tasks in the hands of the loops. -/
def held (c : Coordinator) : List Task := c.streams.filterMap Stream.hand

variable {c c' : Coordinator} {st : Step}

/-- What was not sent is queued or in a hand. -/
theorem unsent_holdings (c : Coordinator) : c.holdings.unsent = c.queue.tasks ++ c.held := by
  have hands : ∀ ss : List Stream,
      (ss.map Stream.lane).flatMap (fun l => l.hand.toList) = ss.filterMap Stream.hand := by
    intro ss
    induction ss with
    | nil => rfl
    | cons s ss ih =>
      rw [List.map_cons, List.flatMap_cons, ih, List.filterMap_cons, Stream.lane]
      cases s.hand with
      | none => rfl
      | some t => rfl
  exact congrArg (c.queue.tasks ++ ·) (hands c.streams)

/-- A full queue refuses every task, named or not. -/
theorem queueTask_of_full {t : Task} (full : c.queue.capacity ≤ c.queue.size) :
    ∃ e, c.queueTask t = .error e := by
  unfold queueTask
  split
  · exact ⟨_, rfl⟩
  · rw [Queue.enqueue_of_full full]
    exact ⟨_, rfl⟩

/-- A task comes in only while there is room. -/
theorem room_of_enter {t : Task} (h : c.movement st = .enter t) : c.queue.size < c.queue.capacity := by
  have isOf := c.movement_isOf st
  rw [h] at isOf
  subst isOf
  refine Nat.lt_of_not_le fun full => ?_
  obtain ⟨e, refused⟩ := queueTask_of_full (t := t) full
  simp only [movement, refused] at h
  cases h

/-- The capacity stays as it was set. -/
theorem capacity_next (h : c.next? st = some c') : c'.queue.capacity = c.queue.capacity := by
  cases happens_of_next h with
  | moved hs move => cases move <;> rfl
  | _ => rfl

/-! ## The queue and the hands together -/

/-- How many tasks are queued or in a hand. -/
def load (c : Coordinator) : Nat := c.queue.size + c.held.length

/-- The load counts what was not sent. -/
theorem length_unsent (c : Coordinator) : c.holdings.unsent.length = c.load := by
  rw [unsent_holdings, List.length_append]
  rfl

/-- There is more only after a task came in, and then by one. -/
theorem load_next (h : c.next? st = some c') :
    c'.load ≤ c.load ∨ c.queue.size < c.queue.capacity ∧ c'.load ≤ c.load + 1 := by
  have account := (Holdings.move_unsent (next?_holdings h)).length_eq
  simp only [List.length_append, length_unsent] at account
  cases hm : c.movement st with
  | enter t =>
    rw [hm] at account
    have one : (Movement.enter t).incoming.length = 1 := rfl
    exact .inr ⟨room_of_enter hm, by omega⟩
  | _ =>
    rw [hm] at account
    simp only [Movement.incoming, List.length_nil] at account
    exact .inl (by omega)

/-- A queue with its capacity, and no more tasks in it and in hands than that and so many more. -/
structure Bounded (capacity more : Nat) (c : Coordinator) : Prop where
  asSet : c.queue.capacity = capacity
  within : c.load ≤ capacity + more

/-- What comes in finds room, so that with it there are at most the capacity and what is in hands. -/
theorem bounded_next {capacity n : Nat} (hc : Bounded capacity n c) (few : c.held.length ≤ n)
    (h : c.next? st = some c') : Bounded capacity n c' := by
  refine ⟨(capacity_next h).trans hc.asSet, ?_⟩
  have within := hc.within
  rcases load_next h with less | ⟨room, one⟩
  · omega
  · rw [hc.asSet] at room
    unfold load at *
    omega

/-! ## When nothing is put back -/

/-- A queue grows in two ways. -/
theorem Holdings.length_queue_of_move {α : Type} {task : α → Task} {h h' : Holdings α} {m : Movement α}
    (hm : h.move task m = some h') :
    h'.queue.length ≤ h.queue.length ∨ (∃ a, m = .enter a ∧ h'.queue.length = h.queue.length + 1) ∨
      ∃ i, m = .putBack i := by
  cases m with
  | idle | widen | read | lose => cases hm; exact .inl (Nat.le_refl _)
  | enter a => cases hm; exact .inr (.inl ⟨a, rfl, List.length_append⟩)
  | take p => cases hm; exact .inl List.eraseP_sublist.length_le
  | pick i n p =>
    simp only [move] at hm
    split at hm
    · cases hm; exact .inl (Nat.le_refl _)
    · split at hm
      · cases hm; exact .inl (Queue.eraseAfter_sublist n _ _).length_le
      · cases hm
  | deliver i =>
    obtain ⟨a, -, rfl⟩ := Option.map_eq_some_iff.mp hm
    exact .inl (Nat.le_refl _)
  | putBack i => exact .inr (.inr ⟨i, rfl⟩)

/-- No step but a put-back takes a queue beyond its capacity. -/
theorem size_next_le {capacity : Nat} (hc : c.queue.capacity = capacity ∧ c.queue.size ≤ capacity)
    (kept : ∀ i, st ≠ .loop i .putBack) (h : c.next? st = some c') :
    c'.queue.capacity = capacity ∧ c'.queue.size ≤ capacity := by
  refine ⟨(capacity_next h).trans hc.1, ?_⟩
  rcases Holdings.length_queue_of_move (next?_holdings h) with less | ⟨t, enters, one⟩ | ⟨i, back⟩
  · exact Nat.le_trans less hc.2
  · have room := room_of_enter enters
    rw [hc.1] at room
    exact Nat.le_trans (Nat.le_of_eq one) room
  · have isOf := c.movement_isOf st
    rw [back] at isOf
    exact absurd isOf (kept i)

/-! ## Along a run -/

/-- In a run in which no more than `n` tasks are in hands at any time, the queue is never longer than its
capacity and `n`, and never longer than its capacity if nothing is put back. At the end of it a task that
is brought comes in if and only if the queue is shorter than its capacity, and is told how long it is then;
otherwise it is told the capacity, and nothing changes. -/
theorem queue_bounded {settings : Settings.Coordinator} {now : Instant} {ss : List Step} {n : Nat}
    (h : (start settings now).run? ss = some c)
    (few : Along (fun c _ => c.held.length ≤ n) (start settings now) ss) :
    c.queue.size ≤ settings.queueCapacity + n ∧
      ((∀ i, Step.loop i .putBack ∉ ss) → c.queue.size ≤ settings.queueCapacity) ∧
      ∀ t, ((∃ q, c.queue.enqueue t = .ok (q.size, q) ∧ q.tasks = c.queue.tasks ++ [t]) ↔
          c.queue.size < settings.queueCapacity) ∧
        (settings.queueCapacity ≤ c.queue.size →
          c.queue.enqueue t = .error (.queueFull settings.queueCapacity) ∧
            c.next? (.queueTask t) = some c) := by
  have bounded : Bounded settings.queueCapacity n c :=
    run?_keeps bounded_next few h ⟨rfl, Nat.zero_le _⟩
  refine ⟨Nat.le_trans (Nat.le_add_right ..) bounded.within, fun kept => ?_, fun t => ⟨?_, ?_⟩⟩
  -- Only what is put back is let in without a look at the capacity.
  · have still : ∀ st ∈ ss, ∀ i, st ≠ .loop i .putBack := by
      rintro _ hst i rfl
      exact kept i hst
    exact (run?_keeps size_next_le (along_of_forall still) h ⟨rfl, Nat.zero_le _⟩).2
  · rw [← bounded.asSet]
    constructor
    · rintro ⟨q, taken, -⟩
      refine Nat.lt_of_not_le fun full => ?_
      rw [Queue.enqueue_of_full full] at taken
      cases taken
    · intro room
      refine ⟨{ c.queue with tasks := c.queue.tasks ++ [t] }, ?_, rfl⟩
      rw [Queue.enqueue_of_room room]
      simp only [Queue.size, List.length_append, List.length_singleton]
  · intro full
    rw [← bounded.asSet] at full ⊢
    obtain ⟨e, refused⟩ := queueTask_of_full (t := t) full
    exact ⟨Queue.enqueue_of_full full, congrArg (some ∘ c.orElse) refused⟩

/-- Two loops take a task each from a queue for one, the place is filled again each time, the workers go
away, and both tasks are put back. -/
def overfilled : List Step :=
  [.register ⟨"v", "worker", .empty, "1", .empty⟩, .openStream "v" (Fresh.token 0) 1 false, .feed 0,
    .register ⟨"w", "worker", .empty, "1", .empty⟩, .openStream "w" (Fresh.token 1) 1 false, .feed 1,
    .loop 0 .check, .loop 0 .wake, .loop 1 .check, .loop 1 .wake,
    .queueTask (.plain "a" .cleanup [] .epoch), .loop 0 .look,
    .queueTask (.plain "b" .cleanup [] .epoch), .loop 1 .look,
    .queueTask (.plain "c" .cleanup [] .epoch), .closeStream 0, .closeStream 1,
    .loop 0 .giveUp, .loop 0 .putBack, .loop 1 .giveUp, .loop 1 .putBack]

/-- The queue for one then has three, and takes no fourth. -/
theorem queue_bounded_overfilled :
    let settings : Settings.Coordinator := { Settings.Coordinator.default with queueCapacity := 1 }
    ∃ c, (start settings .epoch).run? overfilled = some c ∧
      Along (fun c _ => c.held.length ≤ 2) (start settings .epoch) overfilled ∧
      c.queue.size = 1 + 2 ∧ c.queue.size ≤ settings.queueCapacity + 2 ∧
      c.next? (.queueTask (.plain "d" .cleanup [] .epoch)) = some c := by
  intro settings
  have ends : ((start settings .epoch).run? overfilled).map (·.queue.size) = some 3 := by
    decide +kernel
  obtain ⟨c, hc, size⟩ := Option.map_eq_some_iff.mp ends
  have few : Along (fun c _ => c.held.length ≤ 2) (start settings .epoch) overfilled := by
    decide +kernel
  obtain ⟨bound, -, admits⟩ := queue_bounded hc few
  exact ⟨c, hc, few, size, bound, ((admits _).2 (by rw [size]; decide)).2⟩

end Coordinator

end WorkDispatch
