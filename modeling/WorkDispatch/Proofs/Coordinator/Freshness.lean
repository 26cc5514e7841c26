import Mathlib.Data.List.Induction
import WorkDispatch.Proofs.Coordinator.Waking

/-!
# How fresh a worker is when it is sent a task

A loop takes a task only while its worker is active, and does not ask again: the task goes into the
buffer as soon as there is room, and time may pass before there is. So the heartbeat that counts is
the one there was when the task was taken. `sent_since_taken` says what is left of it when the task
goes into the buffer: the heartbeat is older than the window by less than the loop has waited for
room. `stale_worker_is_sent_task` is a run in which the loop waits, the worker falls silent, and room is
made.

All of this is said of heartbeats that were taken from the worker. A record whose last heartbeat is
moved into the past (`Step.backdate`) may be of any age.
-/

set_option autoImplicit false

namespace WorkDispatch.Coordinator

variable {c c' : Coordinator} {st : Step}

/-! ## What goes into a buffer -/

section Changes

variable {i : Nat} {s s' : Stream} {t : Task}

/-- A task goes into a buffer in no other way than that the loop delivers the one in its hand. -/
theorem Stream.Changes.enters (h : s.Changes c i st s') (enters : s'.buffer = s.buffer ++ [.task t]) :
    st = .loop i .deliver ∧ s.phase = .delivering t := by
  have same : s.buffer ≠ s.buffer ++ [.task t] := fun h => by
    have lengths := congrArg List.length h
    rw [List.length_append, List.length_singleton] at lengths
    omega
  cases h with
  | stays | deaf | told | fed => exact absurd enters same
  | read _ first =>
    have lengths := congrArg List.length enters
    simp only [first, List.length_append, List.length_cons] at lengths
    omega
  | closed => exact absurd enters.symm (List.append_ne_nil_of_right_ne_nil _ (List.cons_ne_nil _ _))
  | moved move =>
    cases move with
    | deliver phase =>
      cases List.append_cancel_left enters
      exact ⟨rfl, phase⟩
    | notice => cases List.append_cancel_left enters
    | _ => exact absurd enters same

/-- A loop has a task to deliver because it had it before and did nothing, or because it has just taken
it, and it suited. -/
theorem Stream.Changes.delivering (h : s.Changes c i st s') (hand : s'.phase = .delivering t) :
    (s.phase = .delivering t ∧ ∀ m, st ≠ .loop i m) ∨ (st = .loop i .look ∧ c.suits s t = true) := by
  cases h with
  | stays _ unmoved => exact .inl ⟨hand, unmoved⟩
  | deaf => exact .inl ⟨hand, nofun⟩
  | told | fed => cases hand
  | read | closed => exact .inl ⟨hand, nofun⟩
  | moved move =>
    cases move with
    | pick _ first => cases hand; exact .inr ⟨rfl, List.find?_some first⟩
    | leave =>
      simp only at hand
      split at hand
      · cases hand
      · cases hand
    | _ => cases hand

end Changes

/-! ## The look with which a task was taken -/

/-- At the end of a run that begins in `b`, the loop of the stream `i` of the worker `id` has the task
`t` in its hand since it looked in the state `d`, before the steps `held`. -/
structure TakenAt (b : Coordinator) (ss : List Step) (i : Nat) (id : String) (t : Task)
    (d : Coordinator) (held : List Step) : Prop where
  run : ∃ before, ss = before ++ .loop i .look :: held ∧ b.run? before = some d
  active : d.registry.isActiveAt id d.now = true
  able : ∃ s, d.streams[i]? = some s ∧ s.workerId = id ∧ s.capabilities.canHandle t.type = true
  still : ∀ m, Step.loop i m ∉ held

/-- Whatever a loop has to deliver it took with a look. -/
theorem exists_takenAt {b : Coordinator} (new : b.streams = []) {ss : List Step}
    (h : b.run? ss = some c) {i : Nat} {s : Stream} {t : Task} (hs : c.streams[i]? = some s)
    (hand : s.phase = .delivering t) : ∃ d held, TakenAt b ss i s.workerId t d held := by
  -- From the last step backwards: it is the look, or the loop had the task before it.
  induction ss using List.reverseRecOn generalizing c s with
  | nil =>
    cases h
    rw [new] at hs
    cases hs
  | append_singleton ss st ih =>
    obtain ⟨e, he, last⟩ := run?_concat_eq_some h
    rcases stream_before last hs with ⟨_, _, _, _, _, _, _, _, _, rfl⟩ | ⟨r, hr, change⟩
    · cases hand
    · rcases change.delivering hand with ⟨before, still⟩ | ⟨rfl, suits⟩
      · obtain ⟨d, held, taken⟩ := ih he hr before
        obtain ⟨front, rfl, run⟩ := taken.run
        refine ⟨d, held ++ [st], ⟨front, ?_, run⟩, change.owner.1 ▸ taken.active,
          change.owner.1 ▸ taken.able, fun m hm => ?_⟩
        · exact concat_behind ..
        · rcases List.mem_append.mp hm with hm | hm
          · exact taken.still m hm
          · exact still m (List.mem_singleton.mp hm).symm
      · obtain ⟨able, active⟩ := Bool.and_eq_true_iff.mp suits
        exact ⟨e, [], ⟨ss, rfl, he⟩, change.owner.1 ▸ active,
          ⟨r, hr, change.owner.1.symm, able⟩, fun _ => List.not_mem_nil⟩

/-! ## Heartbeats and time -/

/-- No worker was heard of in the future. -/
structure Paced (c : Coordinator) : Prop where
  timely : c.Timely
  heard : ∀ id w, c.registry.get? id = some w → w.lastHeartbeat.total ≤ c.now.total

/-- Time does not go back. -/
theorem Paced.now_le_next (hc : c.Paced) (h : c.next? st = some c') : c.now.total ≤ c'.now.total := by
  rcases now_next h with same | ⟨time, later⟩
  · exact Int.le_of_eq (congrArg Instant.total same.symm)
  · rw [later]
    exact Instant.total_le_plus hc.timely.clock time

/-- When none is moved, the last heartbeat is the one that it was or has come with the step. -/
theorem genuine_next (h : c.next? st = some c') (genuine : ∀ id age, st ≠ .backdate id age)
    {id : String} {w' : Record} (hw' : c'.registry.get? id = some w') :
    (∃ w, c.registry.get? id = some w ∧ w'.lastHeartbeat = w.lastHeartbeat) ∨
      w'.lastHeartbeat = c.now :=
  (lastHeartbeat_next h hw').imp_right fun other =>
    other.resolve_right fun ⟨age, moved, _⟩ => genuine id age moved

/-- No step but a moved heartbeat takes one into the future. -/
theorem paced_next (hc : c.Paced) (genuine : ∀ id age, st ≠ .backdate id age)
    (h : c.next? st = some c') : c'.Paced := by
  refine ⟨timely_next hc.timely h, fun id w' hw' => Int.le_trans ?_ (hc.now_le_next h)⟩
  rcases genuine_next h genuine hw' with ⟨w, hw, same⟩ | now
  · rw [same]
    exact hc.heard id w hw
  · exact Int.le_of_eq (congrArg Instant.total now)

/-- In a run without moved heartbeats no worker was heard of in the future. -/
theorem paced_run {settings : Settings.Coordinator} {now : Instant} {ss : List Step}
    (h : (start settings now).run? ss = some c) (plain : now.IsPlain)
    (genuine : ∀ st ∈ ss, ∀ id age, st ≠ .backdate id age) : c.Paced :=
  run?_keeps paced_next (along_of_forall genuine) h
    ⟨⟨plain, fun _ _ hw => by cases hw⟩, fun _ _ hw => by cases hw⟩

/-- The worker was active in the state `d`, and what was heard of it since is younger. -/
structure HeardSince (d : Coordinator) (id : String) (c : Coordinator) : Prop where
  paced : c.Paced
  later : d.now.total ≤ c.now.total
  window : c.registry.window = d.registry.window
  heard : ∃ w, c.registry.get? id = some w ∧
    d.now.total - d.registry.window.nanoseconds < w.lastHeartbeat.total

/-- An active worker was heard of within the window. -/
theorem heardSince_of_active (hc : c.Paced) {id : String}
    (active : c.registry.isActiveAt id c.now = true) : HeardSince c id c := by
  refine ⟨hc, Int.le_refl _, rfl, ?_⟩
  unfold Registry.isActiveAt at active
  split at active
  · next w hw =>
    refine ⟨w, hw, ?_⟩
    simp only [Record.isActiveAt, decide_eq_true_eq] at active
    rw [Instant.since_of_isPlain hc.timely.clock (hc.timely.heard id w hw)] at active
    omega
  · cases active

/-- The window is not empty, as there is an active worker that was not heard of in the future. -/
theorem HeardSince.window_pos {d : Coordinator} {id : String} (hd : HeardSince d id d) :
    0 < d.registry.window.nanoseconds := by
  obtain ⟨w, hw, young⟩ := hd.heard
  have past := hd.paced.heard id w hw
  omega

/-- A worker that was active, or heard of since, stays heard of since. -/
theorem heardSince_next {d : Coordinator} {id : String} (wide : 0 < d.registry.window.nanoseconds)
    (hc : HeardSince d id c) (genuine : ∀ id age, st ≠ .backdate id age)
    (h : c.next? st = some c') : HeardSince d id c' := by
  obtain ⟨w, hw, young⟩ := hc.heard
  obtain ⟨w', hw'⟩ := Option.isSome_iff_exists.mp
    (isSome_record_next h (Option.isSome_iff_exists.mpr ⟨w, hw⟩))
  refine ⟨paced_next hc.paced genuine h, Int.le_trans hc.later (hc.paced.now_le_next h),
    (window_next h).trans hc.window, w', hw', ?_⟩
  rcases genuine_next h genuine hw' with ⟨v, hv, same⟩ | now
  · cases hw.symm.trans hv
    rw [same]
    exact young
  · rw [now]
    have later := hc.later
    omega

/-! ## What is left of it when the task is sent -/

/-- The worker of the state `c` has a heartbeat that is older than the window by less than has passed
since the state `d`. -/
theorem HeardSince.age_lt {d : Coordinator} {id : String} (hd : d.Timely) (hc : HeardSince d id c) :
    ∃ w, c.registry.get? id = some w ∧
      c.now.since w.lastHeartbeat < c.registry.window.nanoseconds + c.now.since d.now := by
  obtain ⟨w, hw, young⟩ := hc.heard
  have clock := hc.paced.timely.clock
  refine ⟨w, hw, ?_⟩
  rw [Instant.since_of_isPlain clock (hc.paced.timely.heard id w hw),
    Instant.since_of_isPlain clock hd.clock, hc.window]
  omega

/-- When a task goes into the buffer of a stream, in whatever run of a coordinator whose workers are
heard of by their heartbeats only, the loop of the stream delivers it, and has had it in its hand since
a look at which its worker was active. The last heartbeat of the worker is older than the window by
less than the time since that look; so if no time has passed, the worker is active. -/
theorem sent_since_taken {settings : Settings.Coordinator} {now : Instant} {ss : List Step}
    (plain : now.IsPlain) (genuine : ∀ st ∈ ss, ∀ id age, st ≠ .backdate id age)
    (h : (start settings now).run? ss = some c) (next : c.next? st = some c') {i : Nat}
    {s s' : Stream} {t : Task} (hs : c.streams[i]? = some s) (hs' : c'.streams[i]? = some s')
    (enters : s'.buffer = s.buffer ++ [.task t]) :
    st = .loop i .deliver ∧ ∃ d held, TakenAt (start settings now) ss i s.workerId t d held ∧
      (∃ w, c.registry.get? s.workerId = some w ∧
        c.now.since w.lastHeartbeat < c.registry.window.nanoseconds + c.now.since d.now) ∧
      (c.now = d.now → c.registry.isActiveAt s.workerId c.now = true) := by
  -- A stream that has just been opened was not there before.
  rcases stream_before next hs' with ⟨_, _, _, _, _, _, _, _, new, _⟩ | ⟨r, hr, change⟩
  · exact absurd (List.getElem?_eq_some_iff.mp hs).1 (new ▸ Nat.lt_irrefl _)
  · cases hs.symm.trans hr
    obtain ⟨delivers, hand⟩ := change.enters enters
    obtain ⟨d, held, taken⟩ := exists_takenAt rfl h hs hand
    obtain ⟨before, rfl, run⟩ := taken.run
    have pacedThen : d.Paced := paced_run run plain fun st hst =>
      genuine st (List.mem_append_left _ hst)
    have activeThen := heardSince_of_active pacedThen taken.active
    rw [run?_append, run, Option.bind_some] at h
    -- The look was in the state `d`; from there on the worker can only be heard again.
    have since : HeardSince d s.workerId c :=
      run?_keeps (heardSince_next activeThen.window_pos)
        (along_of_forall fun st hst => genuine st (List.mem_append_right _ hst)) h activeThen
    obtain ⟨w, hw, young⟩ := since.age_lt pacedThen.timely
    refine ⟨delivers, d, held, taken, ⟨w, hw, young⟩, fun same => ?_⟩
    have clock := pacedThen.timely.clock
    rw [same, Instant.since_of_isPlain clock clock] at young
    simp only [Registry.isActiveAt, hw, Record.isActiveAt, decide_eq_true_eq, same]
    omega

/-- What is sent in the runs below. -/
def errand (id : String) : Task := .plain id .cleanup [] .epoch

/-- A worker is sent a task, for which alone there is room, and its loop takes another one. Time passes,
and the worker reads the first. -/
def hold (time : Span) : List Step :=
  [.register ⟨"w", "worker", .empty, "1", .empty⟩, .openStream "w" (Fresh.token 0) 1 false, .feed 0,
    .queueTask (errand "a"), .queueTask (errand "b"),
    .loop 0 .check, .loop 0 .wake, .loop 0 .look, .loop 0 .deliver,
    .loop 0 .check, .loop 0 .wake, .loop 0 .look, .pass time, .receive 0]

/-- The loop of the first stream of a worker puts a task into the buffer, and the worker is active or
not. -/
def sendsWhile (active : Bool) (t : Task) (c : Coordinator) : Bool :=
  c.streams[0]?.any fun s => (c.next? (.loop 0 .deliver)).any fun c' => c'.streams[0]?.any fun s' =>
    decide (s'.buffer = s.buffer ++ [.task t]) &&
      decide (c.registry.isActiveAt s.workerId c.now = active)

/-- What the check of the runs below says. -/
theorem exists_of_sendsWhile {active : Bool} {t : Task} (h : c.sendsWhile active t = true) :
    ∃ c' s s', c.next? (.loop 0 .deliver) = some c' ∧ c.streams[0]? = some s ∧
      c'.streams[0]? = some s' ∧ s'.buffer = s.buffer ++ [.task t] ∧
      c.registry.isActiveAt s.workerId c.now = active := by
  simp only [sendsWhile, Option.any_eq_true, Bool.and_eq_true, decide_eq_true_eq] at h
  obtain ⟨s, hs, c', next, s', hs', enters, worker⟩ := h
  exact ⟨c', s, s', next, hs, hs', enters, worker⟩

/-- A minute passes, and the task is sent to a worker that is still active. -/
theorem sent_since_taken_hold :
    ∃ c c' s s' d held, (start .default .epoch).run? (hold (.ofSeconds 60)) = some c ∧
      c.next? (.loop 0 .deliver) = some c' ∧ c.streams[0]? = some s ∧ c'.streams[0]? = some s' ∧
      s'.buffer = s.buffer ++ [.task (errand "b")] ∧
      TakenAt (start .default .epoch) (hold (.ofSeconds 60)) 0 s.workerId (errand "b") d held ∧
      ∃ w, c.registry.get? s.workerId = some w ∧
        c.now.since w.lastHeartbeat < c.registry.window.nanoseconds + c.now.since d.now := by
  have ends : ((start .default .epoch).run? (hold (.ofSeconds 60))).any
      (sendsWhile true (errand "b")) = true := by decide +kernel
  obtain ⟨c, hc, sends⟩ := (Option.any_eq_true _ _).mp ends
  obtain ⟨c', s, s', next, hs, hs', enters, -⟩ := exists_of_sendsWhile sends
  have genuine : ∀ st ∈ hold (.ofSeconds 60), ∀ id age, st ≠ .backdate id age := by
    simp [hold]
  obtain ⟨-, d, held, taken, young, -⟩ :=
    sent_since_taken (by decide) genuine hc next hs hs' enters
  exact ⟨c, c', s, s', d, held, hc, next, hs, hs', enters, taken, young⟩

/-- The worker is silent for as long as the window is while its buffer is full, and the task goes into
its buffer when it has read. -/
theorem stale_worker_is_sent_task :
    ∃ c c' s s', (start .default .epoch).run? (hold (.ofSeconds 120)) = some c ∧
      c.next? (.loop 0 .deliver) = some c' ∧ c.streams[0]? = some s ∧ c'.streams[0]? = some s' ∧
      s'.buffer = s.buffer ++ [.task (errand "b")] ∧
      c.registry.isActiveAt s.workerId c.now = false := by
  have ends : ((start .default .epoch).run? (hold (.ofSeconds 120))).any
      (sendsWhile false (errand "b")) = true := by decide +kernel
  obtain ⟨c, hc, sends⟩ := (Option.any_eq_true _ _).mp ends
  obtain ⟨c', s, s', next, hs, hs', enters, stale⟩ := exists_of_sendsWhile sends
  exact ⟨c, c', s, s', hc, next, hs, hs', enters, stale⟩

end WorkDispatch.Coordinator
