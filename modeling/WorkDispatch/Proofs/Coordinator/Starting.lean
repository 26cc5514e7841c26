import WorkDispatch.Coordinator.Calls

/-!
# Where a coordinator serves that was started

A start that succeeds says where the coordinator serves. Whether it does depends on what was asked
before: a start looks at whether there was one before it, and not at whether there was a stop. `Sound`
is what starts and stops leave of a coordinator, in any order (`Sound.afterAll`). From it,
`serving_iff_unstopped`: a start that succeeds leaves a server that runs at the address, and that nothing
has told to stop, if and only if there was no stop before; a start that fails leaves the coordinator as it
was, so that the next one tries again; and a stop after the first one does nothing.

`stopped_manager_starts` are the two ways to be told an address where nothing serves.
-/

set_option autoImplicit false

namespace WorkDispatch.Coordinator.Manager

/-- A server runs at the address, and nothing has told it to stop. -/
structure Serves (m : Manager) (a : String) : Prop where
  running : m.server = some a
  wanted : m.coordinator.isShuttingDown = false

/-- What starts and stops leave of a coordinator with the settings. -/
structure Sound (s : Settings.Coordinator) (m : Manager) : Prop where
  settings : m.settings = s
  /-- It counts as started once it has served anywhere. -/
  started : m.started = m.address.isSome
  /-- A stop tells its server to stop, and nothing else does. -/
  closing : m.coordinator.isShuttingDown = m.stopped
  server : m.server = if m.stopped then none else m.address

variable {s : Settings.Coordinator} {m : Manager}

/-- A coordinator that was not started is sound. -/
theorem sound_new (s : Settings.Coordinator) (now : Instant) : Sound s (new s now) := ⟨rfl, rfl, rfl, rfl⟩

/-! ## One call -/

/-- A start says where the coordinator has served before, or else tries to serve and notes where. -/
theorem Sound.start_cases (h : Sound s m) (host : Host) :
    (∃ a, m.address = some a ∧ m.start host = (.ok a, m)) ∨
    (∃ a, m.address = none ∧ bind host s = .ok a ∧
      m.start host = (.ok a, { m with
        started := true, address := some a, server := if m.stopped then none else some a })) ∨
    (∃ e, m.address = none ∧ bind host s = .error e ∧ m.start host = (.error e, m)) := by
  unfold start
  rw [h.started, h.settings, h.closing]
  cases m.address with
  | some a => exact .inl ⟨a, rfl, rfl⟩
  | none =>
    cases bind host s with
    | ok a => exact .inr (.inl ⟨a, rfl, rfl, rfl⟩)
    | error e => exact .inr (.inr ⟨e, rfl, rfl, rfl⟩)

/-- It stays so when it is started. -/
theorem Sound.start (h : Sound s m) (host : Host) : Sound s (m.start host).2 := by
  obtain ⟨a, -, eq⟩ | ⟨a, -, -, eq⟩ | ⟨e, -, -, eq⟩ := h.start_cases host
  · rw [eq]
    exact h
  · rw [eq]
    exact ⟨h.settings, rfl, h.closing, rfl⟩
  · rw [eq]
    exact h

/-- A start does not look at whether there was a stop, and does not take it back. -/
theorem Sound.stopped_start (h : Sound s m) (host : Host) : (m.start host).2.stopped = m.stopped := by
  obtain ⟨a, -, eq⟩ | ⟨a, -, -, eq⟩ | ⟨e, -, -, eq⟩ := h.start_cases host
  all_goals rw [eq]

/-- Stopping again does nothing. -/
theorem stop_of_stopped (stopped : m.stopped = true) : m.stop = m := by
  unfold stop
  rw [if_pos stopped]

/-- After a stop it is stopped. -/
theorem stopped_stop (m : Manager) : m.stop.stopped = true := by
  unfold stop
  split
  · next stopped => exact stopped
  · rfl

/-- A stop tells the server, if there is one, and leaves the coordinator sound. -/
theorem Sound.stop (h : Sound s m) : Sound s m.stop := by
  unfold Manager.stop
  split
  · exact h
  · exact ⟨h.settings, h.started, rfl, rfl⟩

/-- A coordinator that was stopped is stopped again in no time, and with nothing left to go wrong. -/
theorem halt_of_stopped (stopped : m.stopped = true) (e : Ending) : m.halt e = (.ok (), m) := by
  unfold halt
  rw [stop_of_stopped stopped, stopped]
  rfl

/-! ## All calls -/

/-- No call makes it unsound. -/
theorem Sound.after (h : Sound s m) (c : Call) : Sound s (m.after c) := by
  cases c with
  | start host => exact h.start host
  | stop e => exact h.stop

/-- Nor do any calls, in any order. -/
theorem Sound.afterAll (h : Sound s m) (calls : List Call) : Sound s (m.afterAll calls) := by
  induction calls generalizing m with
  | nil => exact h
  | cons c calls ih => exact ih (h.after c)

/-- Only a stop stops it. -/
theorem Sound.stopped_after (h : Sound s m) (c : Call) :
    (m.after c).stopped = (m.stopped || c.isStop) := by
  cases c with
  | start host => exact (h.stopped_start host).trans (Bool.or_false _).symm
  | stop e => exact (stopped_stop m).trans (Bool.or_true _).symm

/-- A coordinator is stopped if it was, or if one of the calls was a stop. -/
theorem Sound.stopped_afterAll (h : Sound s m) (calls : List Call) :
    (m.afterAll calls).stopped = (m.stopped || calls.any Call.isStop) := by
  induction calls generalizing m with
  | nil => exact (Bool.or_false _).symm
  | cons c calls ih =>
    calc (m.afterAll (c :: calls)).stopped
      _ = ((m.after c).stopped || calls.any Call.isStop) := ih (h.after c)
      _ = (m.stopped || (c :: calls).any Call.isStop) := by
        rw [h.stopped_after, Bool.or_assoc, List.any_cons]

/-! ## Who serves -/

/-- Where a start says that the coordinator serves, it does unless there was a stop. -/
theorem Sound.serves_start_iff (h : Sound s m) {host : Host} {a : String}
    (ok : (m.start host).1 = .ok a) : (m.start host).2.Serves a ↔ m.stopped = false := by
  have sound := h.start host
  have address : (m.start host).2.address = some a := by
    obtain ⟨b, there, eq⟩ | ⟨b, -, -, eq⟩ | ⟨e, -, -, eq⟩ := h.start_cases host
    · rw [eq] at ok ⊢
      cases ok
      exact there
    · rw [eq] at ok ⊢
      cases ok
      rfl
    · rw [eq] at ok
      cases ok
  have stopped := h.stopped_start host
  constructor
  · rintro ⟨-, wanted⟩
    rwa [sound.closing, stopped] at wanted
  · intro unstopped
    rw [unstopped] at stopped
    refine ⟨?_, sound.closing.trans stopped⟩
    rw [sound.server, stopped, if_neg Bool.false_ne_true, address]

/-- A start that fails could not serve, changes nothing, and is followed by one that tries to. -/
theorem Sound.start_error (h : Sound s m) {host : Host} {e : Failure}
    (failed : (m.start host).1 = .error e) :
    bind host s = .error e ∧ (m.start host).2 = m ∧ ∀ next, (m.start next).1 = bind next s := by
  obtain ⟨a, -, eq⟩ | ⟨a, -, -, eq⟩ | ⟨e', unserved, refused, eq⟩ := h.start_cases host
  · rw [eq] at failed
    cases failed
  · rw [eq] at failed
    cases failed
  · rw [eq] at failed ⊢
    cases failed
    refine ⟨refused, rfl, fun next => ?_⟩
    obtain ⟨a, served, -⟩ | ⟨a, -, bound, eq⟩ | ⟨e, -, refused, eq⟩ := h.start_cases next
    · rw [unserved] at served
      cases served
    · rw [eq, bound]
    · rw [eq, refused]

/-- A coordinator that was given any starts and stops: the address that a start gives is one where it
serves if and only if there was no stop before; a start fails only if it cannot serve, and can then be
tried again; and after a stop another one does nothing. -/
theorem serving_iff_unstopped (s : Settings.Coordinator) (now : Instant) (calls : List Call) :
    let m := (new s now).afterAll calls
    (∀ host a, (m.start host).1 = .ok a →
      ((m.start host).2.Serves a ↔ calls.any Call.isStop = false)) ∧
    (∀ host e, (m.start host).1 = .error e →
      bind host s = .error e ∧ (m.start host).2 = m ∧ ∀ next, (m.start next).1 = bind next s) ∧
    (∀ e, calls.any Call.isStop = true → m.halt e = (.ok (), m)) := by
  intro m
  have sound : Sound s m := (sound_new s now).afterAll calls
  have stopped : m.stopped = calls.any Call.isStop := (sound_new s now).stopped_afterAll calls
  refine ⟨fun host a ok => ?_, fun host e failed => sound.start_error failed, fun e any => ?_⟩
  · rw [← stopped]
    exact sound.serves_start_iff ok
  · exact halt_of_stopped (stopped.trans any) e

/-- A host that lets everyone listen where they ask to. -/
def openHost : Host where
  listen := .ok
  unreadable? _ := none

/-- A host on which every address is taken. -/
def busyHost : Host where
  listen _ := .error "Address already in use (os error 98)"
  unreadable? _ := none

/-- A start that found its address taken is made again when it is free, and the coordinator serves. It is
stopped twice. -/
theorem serving_iff_unstopped_retried :
    let m := (new .default .epoch).afterAll [.start busyHost]
    let stopped := m.afterAll [.start openHost, .stop .overdue]
    ((m.start busyHost).1 = .error (.transport
        "failed to bind 0.0.0.0:50051: Address already in use (os error 98)") ∧
      (m.start busyHost).2 = m ∧ (m.start openHost).1 = bind openHost .default) ∧
    ((m.start openHost).1 = .ok "0.0.0.0:50051" ∧ (m.start openHost).2.Serves "0.0.0.0:50051") ∧
    stopped.halt .drained = (.ok (), stopped) := by
  intro m stopped
  obtain ⟨serves, fails, -⟩ := serving_iff_unstopped .default .epoch [.start busyHost]
  obtain ⟨-, -, stops⟩ :=
    serving_iff_unstopped .default .epoch [.start busyHost, .start openHost, .stop .overdue]
  obtain ⟨-, same, next⟩ := fails busyHost _ rfl
  exact ⟨⟨rfl, same, next openHost⟩, ⟨rfl, (serves openHost _ rfl).mpr rfl⟩, stops .drained rfl⟩

/-- A coordinator that was stopped is started again, or for the first time: it gives an address, and
nothing serves there. -/
theorem stopped_manager_starts :
    let restarted := (new .default .epoch).afterAll [.start openHost, .stop .drained]
    let stopped := (new .default .epoch).afterAll [.stop .drained]
    ((restarted.start openHost).1 = .ok "0.0.0.0:50051" ∧
      ¬ (restarted.start openHost).2.Serves "0.0.0.0:50051") ∧
    ((stopped.start openHost).1 = .ok "0.0.0.0:50051" ∧
      ¬ (stopped.start openHost).2.Serves "0.0.0.0:50051") :=
  ⟨⟨rfl, fun serves => nomatch serves.wanted⟩, ⟨rfl, fun serves => nomatch serves.wanted⟩⟩

end WorkDispatch.Coordinator.Manager
