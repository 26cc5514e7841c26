import WorkDispatch.Worker.Routine

/-!
# Settings under which every routine goes on

A routine goes on, round after round, if and only if it has a period (`goesOn_iff`). Settings that are
usable give one to the connection check and to the heartbeats. They need not give one to the logging of
figures, nor to the probes of a channel, as nothing asks what these two periods are: `routines_go_on_iff`
says that the routines of usable settings all go on if and only if these two are not zero, and that
settings stay usable whatever they are. `usable_settings_break_off` are settings in which both are zero.
-/

set_option autoImplicit false

namespace WorkDispatch

/-! ## What usable settings ask of periods -/

theorem Span.zero_lt_ofSeconds {n : Nat} : Span.zero < .ofSeconds n ↔ n ≠ 0 := by
  change 0 < n * perSecond ↔ n ≠ 0
  rw [perSecond]
  omega

theorem Span.zero_lt_ofMillis {n : Nat} : Span.zero < .ofMillis n ↔ n ≠ 0 := by
  change 0 < n * 1000000 ↔ n ≠ 0
  omega

namespace Settings

/-- Settings of a worker that pass the check give its heartbeats and checks a period. -/
theorem Worker.periods_of_usable {w : Worker} (usable : w.problem? = none) :
    w.heartbeatIntervalSeconds ≠ 0 ∧ w.connectionCheckIntervalSeconds ≠ 0 := by
  unfold problem? at usable
  split at usable
  · cases usable
  split at usable
  · cases usable
  split at usable
  · cases usable
  · next none => exact not_or.mp none

/-- Settings that pass the check do in the part of the worker. -/
theorem worker_usable {s : Settings} (usable : s.problem? = none) : s.worker.problem? = none := by
  unfold problem? at usable
  simp only [Option.orElse_eq_orElse, Option.orElse_eq_or, Option.or_eq_none_iff] at usable
  exact usable.2.1

/-- The settings with other periods for the logging of figures and for the probes. -/
def withPeriods (s : Settings) (stats poll : Nat) : Settings :=
  { s with
    worker := { s.worker with
      statsLogIntervalSeconds := stats
      connection := { s.worker.connection with healthPollIntervalMs := poll } } }

/-- The check asks for neither of these two periods. -/
theorem problem?_withPeriods (s : Settings) (stats poll : Nat) :
    (s.withPeriods stats poll).problem? = s.problem? := rfl

end Settings

namespace Worker

/-! ## Rounds -/

namespace Ticker

/-- Each tick is followed by a later one. -/
theorem next_lt_tick (t : Ticker) : t.next < t.tick.next := by
  change t.next.nanoseconds < t.next.nanoseconds + t.period.nanoseconds
  have positive : 0 < t.period.nanoseconds := t.positive
  omega

/-- As many ticks are told as were asked for. -/
theorem length_dues (t : Ticker) (n : Nat) : (t.dues n).length = n := by
  induction n generalizing t with
  | zero => rfl
  | succ n ih => exact congrArg (· + 1) (ih t.tick)

/-- What is due after a time comes later, one tick after another. -/
theorem pairwise_dues (t : Ticker) {now : Span} (later : now < t.next) (n : Nat) :
    (now :: t.dues n).Pairwise (· < ·) := by
  induction n generalizing t now with
  | zero => exact List.pairwise_singleton _ _
  | succ n ih =>
    have rest : (t.next :: t.tick.dues n).Pairwise (· < ·) := ih t.tick t.next_lt_tick
    refine List.pairwise_cons.mpr ⟨fun due mem => ?_, rest⟩
    rcases List.mem_cons.mp mem with rfl | mem
    · exact later
    · exact Nat.lt_trans later (List.rel_of_pairwise_cons rest mem)

end Ticker

namespace Routine

variable {w : Settings.Worker} {now : Span} {r : Routine}

/-- However many rounds of the routine are waited for, they come, each later than the one before it and
all of them later than its beginning. -/
def GoesOn (w : Settings.Worker) (now : Span) (r : Routine) : Prop :=
  ∀ n, ∃ dues, r.rounds? w now n = some dues ∧ dues.length = n ∧ (now :: dues).Pairwise (· < ·)

/-- A routine with a period begins. -/
theorem begin?_of_pos (positive : Span.zero < r.period w) :
    r.begin? w now = some ⟨r.period w, now + r.period w, positive⟩ := by
  unfold begin? Ticker.every?
  rw [dif_pos positive]
  rfl

/-- One without a period breaks off before its first tick. -/
theorem begin?_of_not_pos (zero : ¬ Span.zero < r.period w) : r.begin? w now = none := by
  unfold begin? Ticker.every?
  rw [dif_neg zero]
  rfl

/-- A routine goes on if it has a period, and has no rounds at all if it has none. -/
theorem goesOn_iff : r.GoesOn w now ↔ Span.zero < r.period w := by
  constructor
  · intro goesOn
    refine Decidable.byContradiction fun zero => ?_
    obtain ⟨dues, begun, -⟩ := goesOn 0
    rw [rounds?, begin?_of_not_pos zero] at begun
    cases begun
  · intro positive n
    let t : Ticker := ⟨r.period w, now + r.period w, positive⟩
    refine ⟨t.dues n, ?_, t.length_dues n, t.pairwise_dues ?_ n⟩
    · rw [rounds?, begin?_of_pos positive]
      rfl
    · exact Nat.lt_add_of_pos_right positive

end Routine

/-- Under usable settings every routine goes on if and only if the logging of figures and the probes have
periods, which usable settings need not give them; the other routines go on in any case. -/
theorem routines_go_on_iff {s : Settings} (usable : s.problem? = none) (now : Span) :
    ((∀ r : Routine, r.GoesOn s.worker now) ↔
      s.worker.statsLogIntervalSeconds ≠ 0 ∧ s.worker.connection.healthPollIntervalMs ≠ 0) ∧
    (∀ r : Routine, ¬ r.GoesOn s.worker now → r = .statsLog ∨ r = .healthPoll) ∧
    ∀ stats poll, (s.withPeriods stats poll).problem? = none := by
  obtain ⟨heartbeat, check⟩ := Settings.Worker.periods_of_usable (Settings.worker_usable usable)
  have checks : Routine.connectionCheck.GoesOn s.worker now :=
    Routine.goesOn_iff.mpr (Span.zero_lt_ofSeconds.mpr check)
  have heartbeats : Routine.heartbeat.GoesOn s.worker now :=
    Routine.goesOn_iff.mpr (Span.zero_lt_ofSeconds.mpr heartbeat)
  have logs : Routine.statsLog.GoesOn s.worker now ↔ s.worker.statsLogIntervalSeconds ≠ 0 :=
    Routine.goesOn_iff.trans Span.zero_lt_ofSeconds
  have probes : Routine.healthPoll.GoesOn s.worker now ↔ s.worker.connection.healthPollIntervalMs ≠ 0 :=
    Routine.goesOn_iff.trans Span.zero_lt_ofMillis
  refine ⟨⟨fun all => ⟨logs.mp (all _), probes.mp (all _)⟩, fun ⟨stats, poll⟩ r => ?_⟩,
    fun r broken => ?_, fun stats poll => (s.problem?_withPeriods stats poll).trans usable⟩
  · cases r with
    | connectionCheck => exact checks
    | heartbeat => exact heartbeats
    | statsLog => exact logs.mpr stats
    | healthPoll => exact probes.mpr poll
  · cases r with
    | connectionCheck => exact absurd checks broken
    | heartbeat => exact absurd heartbeats broken
    | statsLog => exact .inl rfl
    | healthPoll => exact .inr rfl

/-- Settings with the shortest periods that there are. -/
theorem routines_go_on_iff_shortest :
    let s := (Settings.default "w-1").withPeriods 1 1
    s.problem? = none ∧ (∀ r : Routine, r.GoesOn s.worker .zero) ∧ (s.withPeriods 0 0).problem? = none := by
  intro s
  have usable : s.problem? = none := by decide +kernel
  obtain ⟨all, -, other⟩ := routines_go_on_iff usable .zero
  exact ⟨usable, all.mpr ⟨by decide, by decide⟩, other 0 0⟩

/-- Usable settings under which a worker neither logs its figures nor probes its channels. -/
theorem usable_settings_break_off :
    let s := (Settings.default "w-1").withPeriods 0 0
    s.problem? = none ∧ ∀ r ∈ [Routine.statsLog, .healthPoll],
      r.period s.worker = .zero ∧ r.rounds? s.worker .zero 1 = none := by
  intro s
  exact ⟨by decide +kernel, by decide⟩

end Worker

end WorkDispatch
