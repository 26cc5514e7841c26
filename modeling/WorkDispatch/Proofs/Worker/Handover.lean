import WorkDispatch.Proofs.Worker.Slots

/-!
# What becomes of a task that was read

A task that was read off a stream is in hand until there is a slot for it, and is then handed over to an
execution, the one with the number of its place among the tasks that were read. From there on it is not
lost: the execution runs without a result, or has ended with one (`HandedOver.apply`), and while it runs
the worker can stop it, which ends it with a cancelled result (`HandedOver.cancel`).

Between the two there is one way to lose a task. A worker that stops leaves its stream wherever it waits,
and one that waits for a slot leaves with the task in hand, which comes to no execution and no result.
`read_tasks_accounted_iff` says that this is the only way: every task that was read is in hand or was
handed over if and only if the worker did not leave with one in hand. That an execution ends is not said
here.
-/

set_option autoImplicit false

namespace WorkDispatch.Worker

/-! ## Executions -/

namespace Executor

/-- What became of a task that was handed over to the execution of a number. -/
inductive HandedOver (e : Executor) (n : Nat) (t : Task) : Prop
  | runs {x : Execution} (found : e.get? n = some x) (task : x.task = t) (results : e.results n = [])
  | ended {r : TaskResult} (gone : Gone n e) (results : e.results n = [r]) (id : r.taskId = t.id)

section

variable {e : Executor} {n : Nat} {t : Task}

/-- What was handed over has arrived. -/
theorem HandedOver.lt (sound : e.Sound) (h : e.HandedOver n t) : n < e.arrived := by
  cases h with
  | runs found =>
    obtain ⟨there, rfl⟩ := mem_of_get? found
    exact sound.counted _ there
  | ended gone => exact gone.counted

/-- A task that was handed over stays so, and its result stays the one it has. -/
theorem HandedOver.apply (sound : e.Sound) (h : e.HandedOver n t) (m : Moment) (v : Event) :
    (e.apply m v).HandedOver n t := by
  cases h with
  | @runs x found task results =>
    obtain ⟨there, rfl⟩ := mem_of_get? found
    subst task
    rcases turn_of_found found (sound.counted x there) m v with waits | ⟨s, -, onward⟩ | ⟨k, -, closed⟩
    · exact .runs waits.found rfl (waits.results.trans results)
    · exact .runs onward.found rfl (onward.results.trans results)
    · exact .ended closed.gone (closed.results.trans (congrArg _ results)) (resultOf_ids e x m.date _).1
  | ended gone results id =>
    obtain ⟨next, same⟩ := gone.apply m v
    exact .ended next (same.trans results) id

/-- A task that arrives is handed over to the next execution, though it may end at once. -/
theorem handedOver_arrive (sound : e.Sound) (m : Moment) (t : Task) :
    (e.apply m (.arrive t)).HandedOver e.arrived t := by
  obtain ⟨absent, fresh⟩ := sound.fresh
  cases past : t.isPastDeadline m.date with
  | true =>
    have closed := (over_arrival (e := e) past).1
    have results : e.results (e.newcomer m t).number = [] := fresh
    exact .ended closed.gone (closed.results.trans (congrArg _ results)) (resultOf_ids e _ m.date _).1
  | false =>
    have onward := (onward_arrival (e := e) past absent).1
    exact .runs onward.found rfl (onward.results.trans fresh)

/-- Stopping an execution that runs ends it with a cancelled result. -/
theorem HandedOver.cancel (h : e.HandedOver n t) {x : Execution} (found : e.get? n = some x) (m : Moment) :
    ∃ r, (e.apply m (.cancel n)).results n = [r] ∧ r.taskId = t.id ∧ r.status = .cancelled := by
  cases h with
  | @runs y own task results =>
    obtain rfl := Option.some.inj (own.symm.trans found)
    refine ⟨e.resultOf y m.date (.error (stopped y)), ?_, congrArg Task.id task, rfl⟩
    simp only [Executor.apply, found]
    rw [results_conclude, if_pos (mem_of_get? found).2, results]
  | ended gone => cases gone.absent.symm.trans found

end

end Executor

namespace Shift

/-- Every task that was read is in hand, or was handed over to the execution with the number of its place. -/
def Accounted (s : Shift) : Prop :=
  ∀ n t, s.intake.received.reverse[n]? = some t →
    s.intake.held? = some t ∧ n = s.executor.arrived ∨ s.executor.HandedOver n t

/-- The worker leaves with a task in hand. -/
def dropsAt (s : Shift) : Event → Bool
  | .intake v => s.intake.drops v
  | .execution _ => false

/-- Whether the worker leaves with a task in hand, at some event. -/
def drops : Shift → List (Moment × Event) → Bool
  | _, [] => false
  | s, (m, v) :: es => s.dropsAt v || drops (s.apply m v) es

section

variable {s : Shift}

/-! ## Hand-overs -/

/-- Every task that was started was handed over. -/
def Served (s : Shift) : Prop :=
  ∀ n t, s.intake.started.reverse[n]? = some t → s.executor.HandedOver n t

/-- A worker that has just started has nothing to hand over. -/
theorem served_new (s : Settings) (complaint : TaskType → Bytes → String) :
    (new s complaint).Served := fun _ _ h => nomatch h

/-- A task that is started is handed over as it is. -/
theorem Served.starts (served : s.Served) (sound : s.Sound) {t : Task} (due : s.intake.due? = some t)
    (m : Moment) : (⟨s.intake.apply .start, s.executor.apply m (.arrive t)⟩ : Shift).Served := by
  intro n u place
  replace place : (s.intake.apply .start).started.reverse[n]? = some u := place
  rw [Intake.apply_start due, getElem?_reverse_cons] at place
  rcases place with earlier | ⟨rfl, rfl⟩
  · exact (served n u earlier).apply sound.executor m (.arrive t)
  · exact sound.arrived ▸ Executor.handedOver_arrive sound.executor m t

/-- Tasks that were handed over stay so, and one that is started is handed over. -/
theorem Served.apply (served : s.Served) (sound : s.Sound) (m : Moment) (v : Event) :
    (s.apply m v).Served := by
  have turn := does_apply s m v
  generalize s.apply m v = s' at turn
  cases turn with
  | nothing => exact served
  | takes other =>
    intro n t place
    exact served n t ((takes_keeps other s.intake).1 ▸ place)
  | starts due => exact served.starts sound due m
  | works => exact fun n t place => (served n t place).apply sound.executor m _

/-- Whatever happens to a worker, every task that it started was handed over. -/
theorem Served.applyAll (served : s.Served) (sound : s.Sound) (es : List (Moment × Event)) :
    (s.applyAll es).Served := by
  induction es generalizing s with
  | nil => exact served
  | cons p es ih => exact ih (served.apply sound p.1 p.2) (sound.apply p.1 p.2)

/-! ## Leaving -/

/-- What a worker does to its intake, if anything. -/
theorem intake_of_apply (s : Shift) (m : Moment) (v : Event) :
    (s.apply m v).intake = s.intake ∨ ∃ u, v = .intake u ∧ (s.apply m v).intake = s.intake.apply u := by
  have turn := does_apply s m v
  generalize s.apply m v = s' at turn
  cases turn with
  | nothing | works => exact .inl rfl
  | takes | starts => exact .inr ⟨_, rfl, rfl⟩

/-- A worker that left starts nothing any more. -/
theorem left_apply {t : Task} (left : s.intake.Left t) (m : Moment) (v : Event) :
    (s.apply m v).intake.Left t ∧ (s.apply m v).intake.started = s.intake.started := by
  rcases intake_of_apply s m v with same | ⟨u, -, next⟩
  · rw [same]
    exact ⟨left, rfl⟩
  · rw [next]
    exact left.apply u

/-- A worker that left with a task in hand starts no execution any more. -/
theorem left_applyAll {t : Task} (left : s.intake.Left t) (es : List (Moment × Event)) :
    (s.applyAll es).intake.Left t ∧ (s.applyAll es).intake.started = s.intake.started := by
  induction es generalizing s with
  | nil => exact ⟨left, rfl⟩
  | cons p es ih =>
    obtain ⟨next, started⟩ := left_apply left p.1 p.2
    obtain ⟨last, same⟩ := ih next
    exact ⟨last, same.trans started⟩

/-- A task in hand stays so until it is started, unless the worker leaves with it. -/
theorem kept_apply (kept : s.intake.Kept) (m : Moment) (v : Event) :
    s.dropsAt v = false ∧ (s.apply m v).intake.Kept ∨
      s.dropsAt v = true ∧ ∃ t, (s.apply m v).intake.Left t := by
  cases drops : s.dropsAt v with
  | false =>
    refine .inl ⟨rfl, ?_⟩
    rcases intake_of_apply s m v with same | ⟨u, rfl, next⟩
    · exact same ▸ kept
    · exact next ▸ kept.apply drops
  | true =>
    refine .inr ⟨rfl, ?_⟩
    cases v with
    | execution => cases drops
    | intake u =>
      obtain ⟨rfl, -⟩ := Intake.drops_eq_true.1 drops
      exact kept.left drops

/-- A worker has kept all that it read, or it left with one task in hand. -/
theorem kept_applyAll (kept : s.intake.Kept) (es : List (Moment × Event)) :
    drops s es = false ∧ (s.applyAll es).intake.Kept ∨
      drops s es = true ∧ ∃ t, (s.applyAll es).intake.Left t := by
  induction es generalizing s with
  | nil => exact .inl ⟨rfl, kept⟩
  | cons p es ih =>
    obtain ⟨m, v⟩ := p
    rw [drops]
    rcases kept_apply kept m v with ⟨stays, next⟩ | ⟨leaves, t, left⟩
    · rw [stays]
      exact ih next
    · rw [leaves]
      exact .inr ⟨rfl, t, (left_applyAll left es).1⟩

/-! ## Every task that was read -/

/-- While a worker keeps what it reads, every task is in hand or handed over. -/
theorem Served.accounted (served : s.Served) (sound : s.Sound) (kept : s.intake.Kept) : s.Accounted := by
  intro n t place
  rw [kept] at place
  cases held : s.intake.held? with
  | none =>
    rw [held] at place
    exact .inr (served n t place)
  | some u =>
    rw [held] at place
    rcases getElem?_reverse_cons.1 place with earlier | ⟨last, rfl⟩
    · exact .inr (served n t earlier)
    · exact .inl ⟨rfl, last.trans sound.arrived.symm⟩

/-- The task that a worker left with is not accounted for. -/
theorem not_accounted_of_left (sound : s.Sound) {t : Task} (left : s.intake.Left t) : ¬ s.Accounted := by
  intro accounted
  have place : s.intake.received.reverse[s.executor.arrived]? = some t := by
    rw [left.received, getElem?_reverse_cons]
    exact .inr ⟨sound.arrived, rfl⟩
  rcases accounted _ t place with ⟨held, -⟩ | handed
  · cases left.stage.symm.trans (Intake.held?_eq_some.1 held)
  · exact absurd (handed.lt sound.executor) (Nat.lt_irrefl _)

/-- Whatever happens to a worker that was started, every task that it read is in hand or was handed over,
unless it left with one in hand, and never to two executions: there are no more of them than tasks that were
read. An execution that runs can be stopped, and its task then has a result. -/
theorem read_tasks_accounted_iff (s : Settings) (complaint : TaskType → Bytes → String)
    (es : List (Moment × Event)) :
    let w := (new s complaint).applyAll es
    (w.Accounted ↔ drops (new s complaint) es = false) ∧
      w.executor.arrived ≤ w.intake.received.length ∧
      ∀ n x, w.executor.get? n = some x → ∀ m, ∃ r, (w.executor.apply m (.cancel n)).results n = [r] ∧
        r.taskId = x.task.id ∧ r.status = .cancelled := by
  intro w
  have sound : w.Sound := (sound_new s complaint).applyAll es
  have served : w.Served := (served_new s complaint).applyAll (sound_new s complaint) es
  refine ⟨?_, ?_, fun n x found m => ?_⟩
  · have kept : (new s complaint).intake.Kept := rfl
    rcases kept_applyAll kept es with ⟨stays, kept⟩ | ⟨leaves, t, left⟩
    · exact iff_of_true (served.accounted sound kept) stays
    · refine iff_of_false (not_accounted_of_left sound left) ?_
      rw [leaves]
      nofun
  · obtain ⟨ts, -, received⟩ := Intake.exists_waiting sound.intake
    rw [sound.arrived, received, List.length_append]
    exact Nat.le_add_left _ _
  · obtain ⟨there, rfl⟩ := Executor.mem_of_get? found
    exact (served x.number x.task (sound.task x there)).cancel found m

end

/-! ## A task that is lost -/

/-- A worker with one slot stops while one task runs and another waits for the slot. -/
def hasty : List (Moment × Event) :=
  [.intake .ask, .intake .opened, .intake (.read (Executor.errand "t-1")), .intake .start,
    .intake (.read (Executor.errand "t-2")), .intake .cancel, .intake .leave,
    .execution (.cancel 0)].map (⟨.epoch, .zero⟩, ·)

/-- The other task was read and comes to no execution, whatever happens afterwards. -/
theorem read_task_lost :
    ((new single).applyAll hasty).intake.received.reverse[1]? = some (Executor.errand "t-2") ∧
      ∀ es, ((new single).applyAll (hasty ++ es)).executor.arrived = 1 ∧
        ((new single).applyAll (hasty ++ es)).executor.get? 1 = none ∧
        ((new single).applyAll (hasty ++ es)).executor.results 1 = [] := by
  have left : ((new single).applyAll hasty).intake.Left (Executor.errand "t-2") := ⟨rfl, rfl, rfl⟩
  refine ⟨rfl, fun es => ?_⟩
  have sound : ((new single).applyAll (hasty ++ es)).Sound := (sound_new single _).applyAll _
  have started : ((new single).applyAll (hasty ++ es)).intake.started = [Executor.errand "t-1"] := by
    rw [applyAll, List.foldl_append]
    exact (left_applyAll left es).2
  have arrived : ((new single).applyAll (hasty ++ es)).executor.arrived = 1 :=
    sound.arrived.trans (congrArg List.length started)
  obtain ⟨absent, fresh⟩ := sound.executor.fresh
  rw [arrived] at absent fresh
  exact ⟨arrived, absent, fresh⟩

end Shift

end WorkDispatch.Worker
