import WorkDispatch.Proofs.Breaker.Counts

/-!
# Breakers without trials

As long as no call arrives at an open breaker whose timeout is over, there are no trials: the breaker is
closed or open, and the failures in a row decide which. `Untried` says so. A new breaker is untried, and
one stays so when it is told of an outcome while it is closed (`Untried.record`) and when it turns a
call away while it is open (`Untried.reject`).
-/

set_option autoImplicit false

namespace WorkDispatch.Breaker

variable {α : Type} {config : Config} {b : Breaker} {now : Span}

/-- The breaker with one more call turned away. -/
def reject (b : Breaker) : Breaker :=
  { b with metrics := { b.metrics with rejectedCalls := b.metrics.rejectedCalls + 1 } }

/-- Whether a call does not arrive at an open breaker whose timeout since the last trouble is over. -/
def isEarly (b : Breaker) (now : Span) : Bool :=
  match b.state, b.lastFailure with
  | .opened, some t => decide (now.nanoseconds - t.nanoseconds < b.config.timeout.nanoseconds)
  | _, _ => true

/-- A breaker that failures in a row opened, if it is open. -/
structure Untried (config : Config) (b : Breaker) : Prop where
  configured : b.config = config
  state : b.state =
    if config.failureThreshold ≤ b.metrics.consecutiveFailures then .opened else .closed
  few : b.metrics.consecutiveFailures ≤ config.failureThreshold
  trouble : b.state = .opened → ∃ t, b.lastFailure = some t

/-- A new breaker is untried. -/
theorem untried_new (name : String) (h : 0 < config.failureThreshold) :
    (new name config).Untried config where
  configured := rfl
  state := (if_neg (Nat.not_le.mpr h)).symm
  few := Nat.zero_le _
  trouble opened := nomatch opened

/-- An untried breaker is closed unless it is open. -/
theorem Untried.closed_of_ne (h : b.Untried config) (ne : b.state ≠ .opened) : b.state = .closed := by
  rw [h.state] at ne ⊢
  split at ne
  · exact absurd rfl ne
  · next few => exact if_neg few

/-- While it is closed, fewer failures came in a row than open it. -/
theorem Untried.lt_of_closed (h : b.Untried config) (closed : b.state = .closed) :
    b.metrics.consecutiveFailures < config.failureThreshold := by
  refine Nat.lt_of_not_le fun enough => ?_
  rw [h.state, if_pos enough] at closed
  cases closed

/-- A closed breaker counts failures in a row, and starts again with a success. -/
theorem record_of_closed (closed : b.state = .closed) (now took : Span) (r : Except Failure α) :
    (record b now took r).gauge =
      { b.gauge with
        state := if r.isOk then .closed
          else if b.gauge.failures + 1 < b.config.failureThreshold then .closed else .opened
        lastFailure := if r.isOk then b.lastFailure else some now
        failures := if r.isOk then 0 else b.gauge.failures + 1
        successes := if r.isOk then b.gauge.successes else 0 } := by
  cases r with
  | ok a =>
    refine (recordSuccess_gauge b took).trans ?_
    have untried : ¬ b.state = .halfOpen := by
      rw [closed]
      exact nofun
    rw [if_neg untried, ← closed]
    rfl
  | error e =>
    refine (recordFailure_gauge b now took).trans ?_
    simp only [closed, true_and]
    rfl

/-- It stays untried when a call is recorded while it is closed. -/
theorem Untried.record (h : b.Untried config) (closed : b.state = .closed) (now took : Span)
    (r : Except Failure α) : (record b now took r).Untried config := by
  have told := record_of_closed closed now took r
  have before := h.lt_of_closed closed
  have failures : (Breaker.record b now took r).metrics.consecutiveFailures = _ :=
    congrArg Gauge.failures told
  have state : (Breaker.record b now took r).state = _ := congrArg Gauge.state told
  have last : (Breaker.record b now took r).lastFailure = _ := congrArg Gauge.lastFailure told
  have zero : 0 < config.failureThreshold := Nat.lt_of_le_of_lt (Nat.zero_le _) before
  cases r with
  | ok a =>
    refine ⟨(record_config b now took _).trans h.configured, ?_, ?_, fun opened => ?_⟩
    · rw [failures, state]
      exact (if_neg (Nat.not_le.mpr zero)).symm
    · rw [failures]
      exact Nat.zero_le _
    · rw [state] at opened
      cases opened
  | error e =>
    refine ⟨(record_config b now took _).trans h.configured, ?_, ?_, fun _ => ⟨now, last⟩⟩
    -- The gauge compares with less, `Untried` with no more.
    · rw [failures, state, h.configured]
      show (if b.metrics.consecutiveFailures + 1 < config.failureThreshold then State.closed else .opened) =
        if config.failureThreshold ≤ b.metrics.consecutiveFailures + 1 then .opened else .closed
      by_cases enough : config.failureThreshold ≤ b.metrics.consecutiveFailures + 1
      · rw [if_neg (Nat.not_lt.mpr enough), if_pos enough]
      · rw [if_pos (Nat.lt_of_not_le enough), if_neg enough]
    · rw [failures]
      exact before

/-- It stays untried when it rejects. -/
theorem Untried.reject (h : b.Untried config) : b.reject.Untried config :=
  ⟨h.configured, h.state, h.few, h.trouble⟩

/-- An open breaker turns an early call away, and counts it. -/
theorem Untried.arrive_of_opened (h : b.Untried config) (opened : b.state = .opened)
    (early : b.isEarly now = true) : b.arrive now = (false, b.reject) := by
  obtain ⟨t, ht⟩ := h.trouble opened
  have early : now.nanoseconds - t.nanoseconds < b.config.timeout.nanoseconds := by
    simpa only [isEarly, opened, ht, decide_eq_true_eq] using early
  have notDue : b.isDue now = false := by
    simp only [isDue, ht, decide_eq_false_iff_not]
    exact Nat.not_le.mpr early
  simp only [arrive, opened, notDue, Bool.false_eq_true, if_false]
  rfl

end WorkDispatch.Breaker
