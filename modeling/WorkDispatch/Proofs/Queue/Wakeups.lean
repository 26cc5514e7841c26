import WorkDispatch.Queue.Waiting

/-!
# No wakeup is lost

Whoever changes the queue does so in one step and tells the waiters in another, and a waiter asks to be
told in one step and looks in another, so anything may come between. A waiter that parks asked before it
looked: what it did not see came in after it asked, and whoever brought that has told it or is still to
tell. `Attended` counts this. The tasks that suit a waiter that is parked and was not told are no more
than those who are still to tell. Every step keeps it, and `no_wakeup_lost` says what follows in every
state that steps lead to.

It hangs on the order of the two steps of a waiter: one that looks first and asks then would miss a
task that comes in and is told of between them.

What a waiter is told is that something changed. That a task waits for it when it looks again is not
said: somebody else may have taken it.
-/

set_option autoImplicit false

namespace WorkDispatch.Waiting

variable {suits : String → Task → Bool} {w : Waiting} {id : String}

/-- How many tasks suit a waiter. -/
def suiting (suits : String → Task → Bool) (w : Waiting) (id : String) : Nat :=
  w.queue.tasks.countP (suits id)

/-- Of the tasks that suit a waiter that is parked and was not told, there are no more than there are
those who changed the queue and are still to tell. -/
def Attended (suits : String → Task → Bool) (w : Waiting) : Prop :=
  ∀ id, w.waiters.get? id = some ⟨true, false⟩ → w.suiting suits id ≤ w.telling

/-! ## One step -/

/-- Fewer tasks suit after one has left. -/
theorem suiting_take_le (w : Waiting) (p : Task → Bool) (id : String) :
    (w.take p).2.suiting suits id ≤ w.suiting suits id :=
  List.eraseP_sublist.countP_le

/-- A waiter that is parked and untold after a change of another one was so before it. -/
theorem Attended.of_waiters {w' : Waiting} (h : w.Attended suits) (queue : w'.queue = w.queue)
    (telling : w'.telling = w.telling)
    (waiters : ∀ id, w'.waiters.get? id = some ⟨true, false⟩ → w.waiters.get? id = some ⟨true, false⟩) :
    w'.Attended suits := by
  intro id parked
  have before := h id (waiters id parked)
  rwa [suiting, queue, telling]

/-- Who begins to wait has yet to look. -/
theorem Attended.ask (h : w.Attended suits) (id : String) : (w.ask id).Attended suits := by
  refine h.of_waiters rfl rfl fun j parked => ?_
  rw [Waiting.ask, Table.get?_put] at parked
  split at parked
  · cases parked
  · exact parked

/-- Who leaves is missed by nobody. -/
theorem Attended.leave (h : w.Attended suits) (id : String) : (w.leave id).Attended suits := by
  refine h.of_waiters rfl rfl fun j parked => ?_
  rw [Waiting.leave, Table.get?_erase] at parked
  split at parked
  · cases parked
  · exact parked

/-- Who is woken looks again. -/
theorem Attended.wake (h : w.Attended suits) (id : String) : (w.wake id).Attended suits := by
  unfold Waiting.wake
  split
  · exact h.ask id
  · exact h

/-- A task less is no task missed. -/
theorem Attended.take (h : w.Attended suits) (p : Task → Bool) : (w.take p).2.Attended suits :=
  fun id parked => Nat.le_trans (suiting_take_le w p id) (h id parked)

/-- A waiter that looks leaves with a task, or parks when none suits it. -/
theorem Attended.look (h : w.Attended suits) (id : String) :
    (w.look id (suits id)).2.Attended suits := by
  unfold Waiting.look
  split
  · next told asked =>
    split
    · next t q taken =>
      have left : q = (w.queue.take (suits id)).2 := (congrArg Prod.snd taken).symm
      subst left
      exact (h.leave id).take (suits id)
    · next q taken =>
      have none : w.queue.tasks.find? (suits id) = none := congrArg Prod.fst taken
      intro j parked
      rw [Table.get?_put] at parked
      split at parked
      · next same =>
        -- It has just seen that nothing suits.
        subst same
        have unsuited : w.suiting suits j = 0 :=
          List.countP_eq_zero.mpr (List.find?_eq_none.mp none)
        show w.suiting suits j ≤ w.telling
        rw [unsuited]
        exact Nat.zero_le _
      · exact h j parked
  · exact h

/-- A task that is admitted wakes those who wait. -/
theorem Attended.push {n : Nat} {w' : Waiting} {t : Task} (h : w.Attended suits)
    (pushed : w.push t = .ok (n, w')) : w'.Attended suits := by
  unfold Waiting.push Queue.enqueue at pushed
  by_cases full : w.queue.capacity ≤ w.queue.size
  · simp only [full, if_true] at pushed
    cases pushed
  · simp only [full, if_false] at pushed
    cases pushed
    intro id parked
    have before := h id parked
    have one : [t].countP (suits id) ≤ 1 := List.countP_le_length
    show (w.queue.tasks ++ [t]).countP (suits id) ≤ w.telling + 1
    rw [List.countP_append]
    exact Nat.add_le_add before one

/-- So does one that is put back. -/
theorem Attended.pushBack (h : w.Attended suits) (t : Task) : (w.pushBack t).Attended suits := by
  intro id parked
  have before := h id parked
  have one : [t].countP (suits id) ≤ 1 := List.countP_le_length
  show ([t] ++ w.queue.tasks).countP (suits id) ≤ w.telling + 1
  rw [List.countP_append, Nat.add_comm]
  exact Nat.add_le_add before one

/-- When the waiters have been told, none is untold. -/
theorem get?_told_ne (w : Waiting) (id : String) :
    (w.waiters.mapValues Waiter.tell).get? id ≠ some ⟨true, false⟩ := by
  intro untold
  rw [Table.get?_mapValues, Option.map_eq_some_iff] at untold
  obtain ⟨x, -, told⟩ := untold
  cases congrArg Waiter.told told

/-- Every step leaves the waiting attended to. -/
theorem Attended.apply (h : w.Attended suits) (s : Step) : (w.apply suits s).Attended suits := by
  cases s with
  | ask id =>
    simp only [Waiting.apply]
    split
    · exact h
    · exact h.ask id
  | look id => exact h.look id
  | wake id => exact h.wake id
  | leave id => exact h.leave id
  | push t =>
    simp only [Waiting.apply]
    split
    · next pushed => exact h.push pushed
    · exact h
  | pushBack t => exact h.pushBack t
  | tell => exact fun id parked => absurd parked (get?_told_ne w id)
  | wakeAll => exact fun id parked => absurd parked (get?_told_ne w id)
  | take p => exact h.take p

/-! ## Every run -/

/-- Whatever happens, nobody waits for a task that is there. -/
theorem Attended.applyAll (h : w.Attended suits) (ss : List Step) :
    (w.applyAll suits ss).Attended suits := by
  induction ss generalizing w with
  | nil => exact h
  | cons s ss ih => exact ih (h.apply s)

/-- Nobody waits at an empty queue. -/
theorem attended_empty (suits : String → Task → Bool) (capacity : Nat) :
    (empty capacity).Attended suits := by
  intro id parked
  cases parked

/-- A waiter that has yet to look, or was told, comes in its next moves to the first task that suits
it, if there is one. -/
theorem poll_eq_find? {x : Waiter} (waits : w.waiters.get? id = some x) (hx : x ≠ ⟨true, false⟩)
    (p : Task → Bool) : (w.poll id p).1 = w.queue.tasks.find? p := by
  have looks : ∀ v : Waiting, ∀ told, v.waiters.get? id = some ⟨false, told⟩ →
      (v.look id p).1 = v.queue.tasks.find? p := by
    intro v told asked
    unfold Waiting.look
    simp only [asked]
    cases taken : v.queue.take p with
    | mk found q =>
      have same : v.queue.tasks.find? p = found := congrArg Prod.fst taken
      rw [same]
      cases found with
      | none => rfl
      | some t => rfl
  obtain ⟨parked, told⟩ := x
  unfold poll Waiting.wake
  cases parked with
  | false =>
    simp only [waits]
    exact looks w told waits
  | true =>
    cases told with
    | false => exact absurd rfl hx
    | true =>
      simp only [waits]
      exact looks (w.ask id) false (by rw [Waiting.ask, Table.get?_put, if_pos rfl]; rfl)

/-- Whatever steps are taken in whatever order by any waiters, each with tasks of its own that suit it,
and by any who bring, bring back or take tasks or wake the waiters: of the tasks that suit a waiter
that is parked and was not told, there are no more than there are those who changed the queue and are
still to tell, so there is none when nobody is to tell. Every other waiter comes in its next moves to
the first task that suits it, if there is one. -/
theorem no_wakeup_lost (capacity : Nat) (suits : String → Task → Bool) (ss : List Step) {id : String}
    {x : Waiter} (waits : ((empty capacity).applyAll suits ss).waiters.get? id = some x) :
    let w := (empty capacity).applyAll suits ss
    (x = ⟨true, false⟩ → w.queue.tasks.countP (suits id) ≤ w.telling ∧
      (w.telling = 0 → ∀ t ∈ w.queue.tasks, suits id t = false)) ∧
    (x ≠ ⟨true, false⟩ → (w.poll id (suits id)).1 = w.queue.tasks.find? (suits id)) := by
  intro w
  refine ⟨?_, fun hx => poll_eq_find? waits hx (suits id)⟩
  rintro rfl
  have few := (attended_empty suits capacity).applyAll ss id waits
  refine ⟨few, fun quiet t ht => ?_⟩
  have none : w.suiting suits id = 0 := Nat.le_zero.mp (quiet ▸ few)
  exact Bool.eq_false_iff.mpr (List.countP_eq_zero.mp none t ht)

/-- A waiter for insights and one for reports. -/
def apart (id : String) (t : Task) : Bool :=
  if id = "insights" then t.type == .insightGeneration else t.type == .weeklyReport

/-- An insight comes in when the one waiter has parked and before the other has looked, which then looks
twice, as it was told in between. -/
def crossing : Waiting :=
  (empty 1).applyAll apart
    [.ask "insights", .look "insights", .ask "reports",
      .push (.plain "t-1" .insightGeneration [] .epoch), .look "reports", .tell, .wake "reports",
      .look "reports"]

/-- Nothing in the queue suits the waiter that is parked and was not told, and the other one takes the
task that is there. -/
theorem no_wakeup_lost_crossing :
    crossing.waiters.get? "reports" = some ⟨true, false⟩ ∧
      crossing.waiters.get? "insights" = some ⟨true, true⟩ ∧
      (∀ t ∈ crossing.queue.tasks, apart "reports" t = false) ∧
      ((crossing.poll "insights" (apart "insights")).1.map Task.id) = some "t-1" := by
  have reports : crossing.waiters.get? "reports" = some ⟨true, false⟩ := by decide +kernel
  have insights : crossing.waiters.get? "insights" = some ⟨true, true⟩ := by decide +kernel
  have quiet : crossing.telling = 0 := by decide +kernel
  have first : (crossing.queue.tasks.find? (apart "insights")).map Task.id = some "t-1" := by
    decide +kernel
  have unsuited := ((no_wakeup_lost 1 apart _ reports).1 rfl).2 quiet
  have taken := (no_wakeup_lost 1 apart _ insights).2 (by decide)
  exact ⟨reports, insights, unsuited, (congrArg (Option.map Task.id) taken).trans first⟩

end WorkDispatch.Waiting
