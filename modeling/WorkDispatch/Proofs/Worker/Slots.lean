import Mathlib.Data.List.Perm.Subperm
import WorkDispatch.Proofs.Worker.Endings
import WorkDispatch.Worker.Shift

/-!
# Slots

A slot belongs to an execution and not to a stream: an execution keeps it from its start until it has
ended, while streams come and go. So a worker never runs more executions than it has slots, whatever
happens in between (`within_slots`). While it waits for a slot it reads nothing, and the one task in
hand is the next that it starts; tasks are started in the order in which they were read, and the number
of an execution is the place of its task.

`Intake.Turn` says what an event does to an intake, and `Does` what it does to a worker at work. What is
kept is `Sound`. At most one task that was read is not started: the one in hand, or the one that the
worker had in hand when it left.
-/

set_option autoImplicit false

namespace WorkDispatch.Worker

/-- In a list with the latest first, the latest has the last place. -/
theorem getElem?_reverse_cons {α : Type} {a b : α} {l : List α} {n : Nat} :
    (a :: l).reverse[n]? = some b ↔ l.reverse[n]? = some b ∨ n = l.length ∧ a = b := by
  rw [List.reverse_cons, List.getElem?_append, List.length_reverse]
  split
  · next earlier => exact (or_iff_left fun last => Nat.ne_of_lt earlier last.1).symm
  · next later =>
    have beyond : l.reverse[n]? = none :=
      List.getElem?_eq_none (List.length_reverse.symm ▸ Nat.le_of_not_lt later)
    rw [beyond, List.getElem?_singleton]
    by_cases last : n = l.length
    · simp [last]
    · have more : n - l.length ≠ 0 := by omega
      simp [last, more]

/-! ## The intake -/

namespace Intake

/-- An intake leaves with a task in hand. -/
def drops (i : Intake) (v : Event) : Bool := v = .leave && i.cancelled && i.held?.isSome

/-- What an event does, and the intake after it. -/
inductive Turn (i : Intake) : Event → Intake → Prop
  /-- The task in hand stays in hand, and a worker that stops stays without a stream. -/
  | goesOn {v : Event} {s : Stage} {c : Bool} (held : ({ i with stage := s } : Intake).held? = i.held?)
    (stops : i.cancelled = true → c = true)
    (rests : i.stage = .apart → i.cancelled = true → s = .apart) :
    Turn i v { i with stage := s, cancelled := c }
  | reads {t : Task} (stage : i.stage = .reading) :
    Turn i (.read t) { i with stage := .holding t, received := t :: i.received }
  | starts {t : Task} (stage : i.stage = .holding t) (room : i.running.length < i.slots) :
    Turn i .start
      { i with
        stage := .reading
        running := i.running ++ [i.started.length]
        started := t :: i.started }
  | finishes (n : Nat) : Turn i (.finish n) { i with running := i.running.erase n }
  | drops {t : Task} (stage : i.stage = .holding t) (stops : i.cancelled = true) :
    Turn i .leave { i with stage := .apart }

section

variable {i : Intake} {t : Task}

/-- A task is in hand while the intake holds it. -/
theorem held?_eq_some : i.held? = some t ↔ i.stage = .holding t := by
  unfold held?
  split
  · next u stage => rw [stage, Option.some.injEq, Stage.holding.injEq]
  · next other =>
    refine ⟨nofun, fun stage => ?_⟩
    exact absurd stage (other t)

theorem held?_eq_none (other : ∀ t, i.stage ≠ .holding t) : i.held? = none :=
  Option.eq_none_iff_forall_ne_some.2 fun t held => other t (held?_eq_some.1 held)

/-- The task in hand can be started when a slot is free. -/
theorem due?_eq_some : i.due? = some t ↔ i.running.length < i.slots ∧ i.stage = .holding t := by
  rw [due?, ← held?_eq_some]
  split
  · next room => exact ⟨fun held => ⟨room, held⟩, And.right⟩
  · next full => exact ⟨nofun, fun due => absurd due.1 full⟩

/-- A start takes a slot, and the intake reads on. -/
theorem apply_start (due : i.due? = some t) :
    i.apply .start =
      { i with
        stage := .reading
        running := i.running ++ [i.started.length]
        started := t :: i.started } := by
  simp only [apply, due]

/-- An intake drops a task only by leaving with one in hand when the worker stops. -/
theorem drops_eq_true {v : Event} :
    i.drops v = true ↔ v = .leave ∧ i.cancelled = true ∧ ∃ t, i.stage = .holding t := by
  simp only [drops, Bool.and_eq_true, decide_eq_true_eq, and_assoc, Option.isSome_iff_exists, held?_eq_some]

/-- Nothing happens. -/
theorem Turn.nothing (v : Event) : Turn i v i :=
  .goesOn (s := i.stage) (c := i.cancelled) rfl id fun stage _ => stage

/-- An intake without a task in hand goes from one wait to another. -/
theorem Turn.moves {v : Event} {s : Stage} (empty : ∀ t, i.stage ≠ .holding t) (next : ∀ t, s ≠ .holding t)
    (rests : i.stage = .apart → i.cancelled = true → s = .apart) : Turn i v { i with stage := s } :=
  .goesOn (c := i.cancelled) ((held?_eq_none next).trans (held?_eq_none empty).symm) id rests

/-- There is nothing else that an event does. -/
theorem turn_apply (i : Intake) (v : Event) : Turn i v (i.apply v) := by
  have empty : ∀ s, i.stage = s → (∀ t, s ≠ .holding t) → ∀ t, i.stage ≠ .holding t := by
    rintro s rfl other
    exact other
  cases v with
  | ask =>
    simp only [apply]
    split
    · next h =>
      -- An intake that is cancelled does not ask again.
      refine .moves (empty _ h.1 fun _ => nofun) (fun _ => nofun) fun _ stops => ?_
      cases h.2.symm.trans stops
    · exact .nothing _
  | opened =>
    simp only [apply]
    split
    · next stage =>
      refine .moves (empty _ stage fun _ => nofun) (fun _ => nofun) fun rest _ => ?_
      cases stage.symm.trans rest
    · exact .nothing _
  | refused =>
    simp only [apply]
    split
    · next stage => exact .moves (empty _ stage fun _ => nofun) (fun _ => nofun) fun _ _ => rfl
    · exact .nothing _
  | read t =>
    simp only [apply]
    split
    · next stage => exact .reads stage
    · exact .nothing _
  | start =>
    simp only [apply]
    split
    · next t due => exact .starts (due?_eq_some.1 due).2 (due?_eq_some.1 due).1
    · exact .nothing _
  | finish n => exact .finishes n
  | ended =>
    simp only [apply]
    split
    · next stage => exact .moves (empty _ stage fun _ => nofun) (fun _ => nofun) fun _ _ => rfl
    · exact .nothing _
  | cancel => exact .goesOn (s := i.stage) rfl (fun _ => rfl) fun stage _ => stage
  | leave =>
    simp only [apply]
    split
    · next h =>
      -- It leaves in two ways: with a task in hand, which is dropped, or with none.
      by_cases holding : ∃ t, i.stage = .holding t
      · obtain ⟨t, stage⟩ := holding
        exact .drops stage h.1
      · exact .moves (fun t stage => holding ⟨t, stage⟩) (fun _ => nofun) fun _ _ => rfl
    · exact .nothing _

/-! ### What events keep -/

/-- No event changes how many slots there are. -/
theorem slots_apply (i : Intake) (v : Event) : (i.apply v).slots = i.slots := by
  have turn := turn_apply i v
  generalize i.apply v = i' at turn
  cases turn with
  | goesOn | reads | starts | finishes | drops => rfl

/-- An execution is started only when there is room for it. -/
theorem room_apply (room : i.running.length ≤ i.slots) (v : Event) :
    (i.apply v).running.length ≤ (i.apply v).slots := by
  have turn := turn_apply i v
  generalize i.apply v = i' at turn
  cases turn with
  | goesOn | reads | drops => exact room
  | starts stage free =>
    rw [List.length_append]
    exact free
  | finishes n => exact Nat.le_trans List.length_erase_le room

/-- Every task that was read was started, unless it is in hand. -/
def Kept (i : Intake) : Prop := i.received = i.held?.toList ++ i.started

/-- The worker left with a task in hand, and takes no other in. -/
structure Left (i : Intake) (t : Task) : Prop where
  stage : i.stage = .apart
  cancelled : i.cancelled = true
  received : i.received = t :: i.started

/-- All that was read was started, but for the task in hand. -/
theorem Kept.received (kept : i.Kept) (stage : i.stage = .holding t) : i.received = t :: i.started := by
  rw [Kept, held?_eq_some.2 stage] at kept
  exact kept

/-- An event that drops no task keeps all. -/
theorem Kept.apply {v : Event} (kept : i.Kept) (keeps : i.drops v = false) : (i.apply v).Kept := by
  have turn := turn_apply i v
  generalize i.apply v = i' at turn
  cases turn with
  | goesOn held =>
    show i.received = _ ++ i.started
    exact kept.trans (congrArg (fun h => h.toList ++ i.started) held.symm)
  | @reads t stage =>
    have empty : i.held? = none := held?_eq_none fun u holding => nomatch stage.symm.trans holding
    rw [Kept, empty] at kept
    exact congrArg (t :: ·) kept
  | starts stage => exact kept.received stage
  | finishes => exact kept
  | drops stage stops =>
    have leaves : i.drops .leave = true := drops_eq_true.2 ⟨rfl, stops, _, stage⟩
    cases leaves.symm.trans keeps

/-- What an intake leaves with is the one task that is not started. -/
theorem Kept.left {v : Event} (kept : i.Kept) (drops : i.drops v = true) : ∃ t, (i.apply v).Left t := by
  obtain ⟨rfl, stops, t, stage⟩ := drops_eq_true.1 drops
  have other : i.stage ≠ .asking := fun asking => nomatch stage.symm.trans asking
  refine ⟨t, ?_⟩
  simp only [Intake.apply, if_pos (And.intro stops other)]
  exact ⟨rfl, stops, kept.received stage⟩

/-- A worker that left takes nothing in and starts nothing. -/
theorem Left.apply (left : i.Left t) (v : Event) :
    (i.apply v).Left t ∧ (i.apply v).started = i.started := by
  have turn := turn_apply i v
  generalize i.apply v = i' at turn
  cases turn with
  | goesOn _ stops rests =>
    exact ⟨⟨rests left.stage left.cancelled, stops left.cancelled, left.received⟩, rfl⟩
  | finishes => exact ⟨⟨left.stage, left.cancelled, left.received⟩, rfl⟩
  | reads stage | starts stage | drops stage => cases left.stage.symm.trans stage

/-- At most one task is not started. -/
theorem exists_waiting (h : i.Kept ∨ ∃ t, i.Left t) :
    ∃ ts : List Task, ts.length ≤ 1 ∧ i.received = ts ++ i.started := by
  rcases h with kept | ⟨t, left⟩
  · refine ⟨i.held?.toList, ?_, kept⟩
    cases i.held? with
    | none => exact Nat.zero_le 1
    | some t => exact Nat.le_refl 1
  · exact ⟨[t], Nat.le_refl 1, left.received⟩

end

end Intake

/-! ## At work -/

namespace Shift

section

variable (s : Shift) (m : Moment)

/-- What an event does, and the worker after it. -/
inductive Does : Event → Shift → Prop
  | nothing {v : Event} : Does v s
  | takes {v : Intake.Event} (other : v ≠ .start) (ended : ∀ n, v = .finish n → s.executor.get? n = none) :
    Does (.intake v) { s with intake := s.intake.apply v }
  | starts {t : Task} (due : s.intake.due? = some t) :
    Does (.intake .start) ⟨s.intake.apply .start, s.executor.apply m (.arrive t)⟩
  | works {v : Executor.Event} (other : ∀ t, v ≠ .arrive t) :
    Does (.execution v) { s with executor := s.executor.apply m v }

/-- There is nothing else that an event does. -/
theorem does_apply (v : Event) : Does s m v (s.apply m v) := by
  cases v with
  | intake v =>
    cases v with
    | start =>
      simp only [apply]
      split
      · next t due => exact .starts due
      · exact .nothing
    | finish n =>
      simp only [apply]
      split
      · next absent => exact .takes nofun fun k same => Intake.Event.finish.inj same ▸ absent
      · exact .nothing
    | ask | opened | refused | read | ended | cancel | leave => exact .takes nofun nofun
  | execution v =>
    cases v with
    | arrive t => exact .nothing
    | cancel n =>
      simp only [apply]
      split
      · exact .works fun _ => nofun
      · exact .nothing
    | begin | told | answered | overdue =>
      simp only [apply]
      exact .works fun _ => nofun

end

/-- What is so of every worker that was started, whatever happened. -/
structure Sound (s : Shift) : Prop where
  executor : s.executor.Sound
  intake : s.intake.Kept ∨ ∃ t, s.intake.Left t
  room : s.intake.running.length ≤ s.intake.slots
  /-- Executions arrive as they are started. -/
  arrived : s.executor.arrived = s.intake.started.length
  /-- An execution has its slot. -/
  slotted : ∀ x ∈ s.executor.running, x.number ∈ s.intake.running
  /-- An execution has the number of its task. -/
  task : ∀ x ∈ s.executor.running, s.intake.started.reverse[x.number]? = some x.task

section

variable {s : Shift}

/-- A worker that has just started is sound. -/
theorem sound_new (s : Settings) (complaint : TaskType → Bytes → String) : (new s complaint).Sound where
  executor := Executor.sound_new _ _ _ _
  intake := .inl rfl
  room := Nat.zero_le _
  arrived := rfl
  slotted _ hx := absurd hx List.not_mem_nil
  task _ hx := absurd hx List.not_mem_nil

/-- What an intake keeps. -/
theorem intake_apply (h : s.intake.Kept ∨ ∃ t, s.intake.Left t) (v : Intake.Event) :
    (s.intake.apply v).Kept ∨ ∃ t, (s.intake.apply v).Left t := by
  rcases h with kept | ⟨t, left⟩
  · cases drops : s.intake.drops v with
    | false => exact .inl (kept.apply drops)
    | true => exact .inr (kept.left drops)
  · exact .inr ⟨t, (left.apply v).1⟩

/-- Of the events of an intake, only a start has to do with the executions, and only the end of an execution
with slots. -/
theorem takes_keeps {v : Intake.Event} (other : v ≠ .start) (i : Intake) :
    (i.apply v).started = i.started ∧
      ∀ n ∈ i.running, n ∈ (i.apply v).running ∨ v = .finish n := by
  have turn := Intake.turn_apply i v
  generalize i.apply v = i' at turn
  cases turn with
  | goesOn | reads | drops => exact ⟨rfl, fun n hn => .inl hn⟩
  | starts => exact absurd rfl other
  | finishes k =>
    refine ⟨rfl, fun n hn => ?_⟩
    by_cases same : n = k
    · exact .inr (congrArg _ same.symm)
    · exact .inl ((List.mem_erase_of_ne same).2 hn)

/-- What happens to the intake, a start apart, leaves a worker sound. -/
theorem Sound.takes (h : s.Sound) {v : Intake.Event} (other : v ≠ .start)
    (ended : ∀ n, v = .finish n → s.executor.get? n = none) :
    ({ s with intake := s.intake.apply v } : Shift).Sound := by
  obtain ⟨started, slots⟩ := takes_keeps other s.intake
  refine ⟨h.executor, intake_apply h.intake v, Intake.room_apply h.room v, ?_, fun x hx => ?_, fun x hx => ?_⟩
  · exact h.arrived.trans (congrArg List.length started.symm)
  · refine (slots _ (h.slotted x hx)).resolve_right fun finish => ?_
    cases (h.executor.get?_of_mem hx).symm.trans (ended _ finish)
  · show (s.intake.apply v).started.reverse[x.number]? = _
    rw [started]
    exact h.task x hx

/-- So does a start, which begins an execution in the slot that it takes. -/
theorem Sound.starts (h : s.Sound) {t : Task} (due : s.intake.due? = some t) (m : Moment) :
    (⟨s.intake.apply .start, s.executor.apply m (.arrive t)⟩ : Shift).Sound := by
  have arrival : ∀ x ∈ (s.executor.apply m (.arrive t)).running,
      (∃ y ∈ s.executor.running, y.number = x.number ∧ y.task = x.task) ∨
        x.number = s.intake.started.length ∧ x.task = t := by
    intro x hx
    rcases Executor.mem_running_apply hx with old | ⟨u, same, rfl⟩
    · exact .inl old
    · exact .inr ⟨h.arrived, (Executor.Event.arrive.inj same).symm⟩
  refine ⟨h.executor.apply m (.arrive t), intake_apply h.intake .start, Intake.room_apply h.room .start, ?_,
    fun x hx => ?_, fun x hx => ?_⟩
  · show (s.executor.apply m (.arrive t)).arrived = (s.intake.apply .start).started.length
    rw [Executor.arrived_arrive, h.arrived, Intake.apply_start due]
    rfl
  · show x.number ∈ (s.intake.apply .start).running
    rw [Intake.apply_start due]
    rcases arrival x hx with ⟨y, hy, number, -⟩ | ⟨number, -⟩
    · exact List.mem_append_left _ (number ▸ h.slotted y hy)
    · exact List.mem_append_right _ (List.mem_singleton.2 number)
  · show (s.intake.apply .start).started.reverse[x.number]? = some x.task
    rw [Intake.apply_start due, getElem?_reverse_cons]
    rcases arrival x hx with ⟨y, hy, number, task⟩ | ⟨number, task⟩
    · exact .inl (number ▸ task ▸ h.task y hy)
    · exact .inr ⟨number, task.symm⟩

/-- So does what happens to the executions. -/
theorem Sound.works (h : s.Sound) {v : Executor.Event} (other : ∀ t, v ≠ .arrive t) (m : Moment) :
    ({ s with executor := s.executor.apply m v } : Shift).Sound := by
  have old : ∀ x ∈ (s.executor.apply m v).running,
      ∃ y ∈ s.executor.running, y.number = x.number ∧ y.task = x.task := by
    intro x hx
    exact (Executor.mem_running_apply hx).resolve_right fun ⟨t, arrival, _⟩ => other t arrival
  refine ⟨h.executor.apply m v, h.intake, h.room, (Executor.arrived_apply other).trans h.arrived,
    fun x hx => ?_, fun x hx => ?_⟩
  · obtain ⟨y, hy, number, -⟩ := old x hx
    exact number ▸ h.slotted y hy
  · obtain ⟨y, hy, number, task⟩ := old x hx
    exact number ▸ task ▸ h.task y hy

/-- So does every event. -/
theorem Sound.apply (h : s.Sound) (m : Moment) (v : Event) : (s.apply m v).Sound := by
  have turn := does_apply s m v
  generalize s.apply m v = s' at turn
  cases turn with
  | nothing => exact h
  | takes other ended => exact h.takes other ended
  | starts due => exact h.starts due m
  | works other => exact h.works other m

/-- Whatever happens to a worker, it stays sound. -/
theorem Sound.applyAll (h : s.Sound) (es : List (Moment × Event)) : (s.applyAll es).Sound := by
  induction es generalizing s with
  | nil => exact h
  | cons p es ih => exact ih (h.apply p.1 p.2)

theorem slots_apply (s : Shift) (m : Moment) (v : Event) : (s.apply m v).intake.slots = s.intake.slots := by
  have turn := does_apply s m v
  generalize s.apply m v = s' at turn
  cases turn with
  | nothing => rfl
  | takes => exact Intake.slots_apply _ _
  | starts => exact Intake.slots_apply _ _
  | works => rfl

/-- Nor do any events. -/
theorem slots_applyAll (s : Shift) (es : List (Moment × Event)) :
    (s.applyAll es).intake.slots = s.intake.slots := by
  induction es generalizing s with
  | nil => rfl
  | cons p es ih => exact (ih _).trans (slots_apply s p.1 p.2)

/-! ## The bound -/

/-- A worker with room for so many executions is within its slots. -/
structure Within (s : Shift) (maxConcurrent : Nat) : Prop where
  /-- Whatever executes has a slot. -/
  running : s.executor.running.length ≤ s.intake.running.length
  slots : s.intake.running.length ≤ max 1 maxConcurrent
  /-- The tasks that were read are those that were started, in the same order, but for the last one. -/
  waiting : ∃ ts : List Task, ts.length ≤ 1 ∧ s.intake.received = ts ++ s.intake.started
  /-- Executions are numbered as they are started. -/
  arrived : s.executor.arrived = s.intake.started.length
  /-- An execution has the number of its task, of those that were read. -/
  order : ∀ x ∈ s.executor.running, s.intake.received.reverse[x.number]? = some x.task

/-- A sound worker is within its slots. -/
theorem Sound.within (h : s.Sound) : s.Within s.intake.slots := by
  obtain ⟨ts, few, received⟩ := Intake.exists_waiting h.intake
  refine ⟨?_, Nat.le_trans h.room (Nat.le_max_right _ _), ⟨ts, few, received⟩, h.arrived, fun x hx => ?_⟩
  · have own : (s.executor.running.map Execution.number).Subperm s.intake.running := by
      refine List.subperm_of_subset h.executor.once fun n hn => ?_
      obtain ⟨x, hx, rfl⟩ := List.mem_map.1 hn
      exact h.slotted x hx
    exact List.length_map (f := Execution.number) ▸ own.length_le
  · rw [received, List.reverse_append]
    have task := h.task x hx
    exact List.getElem?_append_left (List.getElem?_eq_some_iff.1 task).1 ▸ task

/-- However tasks arrive, streams end and are opened again, executions end and the worker stops, it is
within its slots. -/
theorem within_slots (s : Settings) (complaint : TaskType → Bytes → String)
    (es : List (Moment × Event)) :
    ((new s complaint).applyAll es).Within s.worker.maxConcurrentTasks := by
  have h := ((sound_new s complaint).applyAll es).within
  rw [slots_applyAll] at h
  refine { h with slots := Nat.le_trans h.slots (Nat.le_of_eq ?_) }
  show max 1 (max s.worker.maxConcurrentTasks 1) = max 1 s.worker.maxConcurrentTasks
  omega

/-- A worker with one slot. -/
def single : Settings :=
  { Settings.default "w-1" with worker := { Settings.Worker.default "w-1" with maxConcurrentTasks := 1 } }

/-- The slot stays taken when the stream ends, and the next task waits for it on the next stream. -/
example :
    let es : List (Moment × Event) :=
      [.intake .ask, .intake .opened, .intake (.read (Executor.errand "t-1")), .intake .start,
        .intake .ended, .intake .ask, .intake .opened, .intake (.read (Executor.errand "t-2")),
        .intake .start].map (⟨.epoch, .zero⟩, ·)
    ((new single).applyAll es).intake.running = [0] ∧
      ((new single).applyAll es).intake.held? = some (Executor.errand "t-2") := ⟨rfl, rfl⟩

end

end Shift

end WorkDispatch.Worker
