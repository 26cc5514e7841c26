import WorkDispatch.Coordinator.Manager
import WorkDispatch.Proofs.Job
import WorkDispatch.Proofs.Wire.Convert
import WorkDispatch.Proofs.Worker.Asking

/-!
# Queued jobs are what the service is asked for

A job is refused only where the queue is full (`queueJob_queues`). Otherwise the task that is queued
for it is read as the job, also by the workers that it reaches, and in every run of a worker the
service is asked for the job on behalf of that task, and for nothing else: `queued_jobs_asked`.
-/

set_option autoImplicit false

namespace WorkDispatch.Coordinator

open Worker

/-! ## Queueing -/

/-- An identifier of a task is not blank. -/
theorem isAllBlank_taskId (n : Nat) : Text.isAllBlank (Fresh.taskId n) = false := by
  have digits : "00000000-0000-4000-8000-".toList.all Text.isBlank = false := by
    decide +kernel
  unfold Text.isAllBlank Fresh.taskId
  rw [String.toList_append, List.all_append, digits, Bool.false_and]

/-- Either a task that is right comes in at the end of the queue, under the identifier that is
answered, or the queue is full. -/
def Queues (m : Manager) (right : Task → Prop) : Except Failure (String × Manager) → Prop
  | .ok (id, m') => ∃ t, t.id = id ∧ right t ∧
      m'.coordinator.queue.tasks = m.coordinator.queue.tasks ++ [t]
  | .error f => f = .queueFull m.coordinator.queue.capacity ∧
      m.coordinator.queue.capacity ≤ m.coordinator.queue.size

/-- A task that is right by its type and its payload alone is queued where there is room. -/
theorem queueJob_queues (m : Manager) {type : TaskType} {payload : Bytes} {right : Task → Prop}
    (h : ∀ t : Task, t.type = type → t.payload = payload → right t) (priority : Int32)
    (minutes : Nat) (metadata : Labels) :
    Queues m right (m.queueJob type payload priority minutes metadata) := by
  unfold Manager.queueJob Coordinator.queueTask Queue.enqueue
  simp only [isAllBlank_taskId, Bool.false_eq_true, if_false]
  by_cases full : m.coordinator.queue.capacity ≤ m.coordinator.queue.size
  · simp only [if_pos full]
    exact ⟨rfl, full⟩
  · simp only [if_neg full]
    exact ⟨_, rfl, h _ rfl rfl, rfl⟩

/-! ## Executing -/

/-- In every run of every worker that a task reaches, the service is asked for `q` on behalf of the
task, and for nothing else. -/
def ReachesService (t : Task) (q : Inquiry) : Prop :=
  ∀ (workerId : String) (taskTimeout : Span) (c : Breaker.Config)
    (complaint : TaskType → Bytes → String) (es : List (Moment × Executor.Event)) (x : Execution)
    (arrival : Instant),
    x ∈ ((Executor.new workerId taskTimeout c complaint).applyAll es).running →
      x.task = (Wire.TaskItem.ofTask t).toTask arrival →
        Executor.AskedFor ((Executor.new workerId taskTimeout c complaint).applyAll es) x q

/-- A task that is read as an inquiry reaches the service as that, over the wire too. -/
theorem reachesService {t : Task} {q : Inquiry} (reads : Inquiry.ofTask t = .ok q) :
    ReachesService t q := by
  intro workerId taskTimeout c complaint es x arrival hx same
  refine Executor.askedFor_of_run workerId taskTimeout c complaint es hx ?_
  rw [same, Wire.toTask_ofTask, reads]

/-! ## Jobs -/

/-- Every job, whatever is in it, is read back from the task that it is queued as, and the service is
asked for it and for nothing else. -/
theorem queued_jobs_asked (m : Manager) :
    (∀ j : InsightJob, Queues m (fun t => InsightJob.decode? t.payload = some j ∧
      Inquiry.ofTask t = .ok (.insight j) ∧ ReachesService t (.insight j)) (m.queueInsight j)) ∧
    (∀ j : WeeklyJob, Queues m (fun t => WeeklyJob.decode? t.payload = some j ∧
      Inquiry.ofTask t = .ok (.weekly j) ∧ ReachesService t (.weekly j)) (m.queueWeekly j)) := by
  constructor
  · intro j
    unfold Manager.queueInsight
    refine queueJob_queues m (fun t type payload => ?_) _ _ _
    have decoded : InsightJob.decode? t.payload = some j := by
      rw [payload]
      exact j.decode?_encode
    have reads : Inquiry.ofTask t = .ok (.insight j) := by
      rw [Inquiry.ofTask, type, decoded]
      rfl
    exact ⟨decoded, reads, reachesService reads⟩
  · intro j
    unfold Manager.queueWeekly
    refine queueJob_queues m (fun t type payload => ?_) _ _ _
    have decoded : WeeklyJob.decode? t.payload = some j := by
      rw [payload]
      exact j.decode?_encode
    have reads : Inquiry.ofTask t = .ok (.weekly j) := by
      rw [Inquiry.ofTask, type, decoded]
      rfl
    exact ⟨decoded, reads, reachesService reads⟩

/-- A coordinator that has just been made queues a job with an empty context, quotes and controls, and
one that begins in the last leap second that there is and ends at the first point in time. -/
theorem queued_jobs_asked_extreme :
    let m := Manager.new Settings.Coordinator.default .epoch
    let j : InsightJob := ⟨"\"\\\n\x00\x7f", ["", "é\u2028", "😀"], "/", some ""⟩
    let w : WeeklyJob := ⟨"\t", ⟨8210266876799, 1999999999, by decide⟩,
      ⟨-8334601228800, 0, by decide⟩⟩
    (∃ t id m', m.queueInsight j = .ok (id, m') ∧ m'.coordinator.queue.tasks = [t] ∧
      InsightJob.decode? t.payload = some j) ∧
    (∃ t id m', m.queueWeekly w = .ok (id, m') ∧ m'.coordinator.queue.tasks = [t] ∧
      WeeklyJob.decode? t.payload = some w) := by
  intro m j w
  obtain ⟨insight, weekly⟩ := queued_jobs_asked m
  have room : ¬ m.coordinator.queue.capacity ≤ m.coordinator.queue.size := by decide
  constructor
  · have h := insight j
    cases answer : m.queueInsight j with
    | error f =>
      rw [answer] at h
      exact absurd h.2 room
    | ok p =>
      rw [answer] at h
      obtain ⟨t, -, ⟨decoded, -, -⟩, tasks⟩ := h
      exact ⟨t, p.1, p.2, rfl, tasks, decoded⟩
  · have h := weekly w
    cases answer : m.queueWeekly w with
    | error f =>
      rw [answer] at h
      exact absurd h.2 room
    | ok p =>
      rw [answer] at h
      obtain ⟨t, -, ⟨decoded, -, -⟩, tasks⟩ := h
      exact ⟨t, p.1, p.2, rfl, tasks, decoded⟩

end WorkDispatch.Coordinator
