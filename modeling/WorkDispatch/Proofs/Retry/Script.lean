import WorkDispatch.Proofs.Retry.Series
import WorkDispatch.Retry.Course
import WorkDispatch.Retry.Script

/-!
# Scripted runs as courses and series

A scripted run says how its calls end and during which of them its token is cancelled. Where its policy
draws no shares that is all that decides it, so it is the run of a course: `runPlain_course` says that
both come to the same after the same number of calls. Behind its breaker, and with a token that is not
cancelled, it is the first run of a series (`runGuarded_series`). What is said of every course and every
series is so said of the scripted runs as well.

Two runs that keep in step come to the same; `attemptsFrom_inStep` says this of runs on states of any
two kinds.
-/

set_option autoImplicit false

namespace WorkDispatch.Retry

/-! ## Runs that keep in step -/

section

variable {σ τ α : Type} {r : Attempts σ α} {q : Attempts τ α} {before after : Nat → σ → τ → Prop}

/-- States that match before an attempt match after it, and those that match after it match after its
backoff: before the next attempt, if there is one. -/
structure InStep (r : Attempts σ α) (q : Attempts τ α) (before after : Nat → σ → τ → Prop) : Prop where
  attempt : ∀ {n : Nat} {s : σ} {t : τ}, before n s t →
    (r.attempt s).1 = (q.attempt t).1 ∧ after n (r.attempt s).2 (q.attempt t).2
  backoff : ∀ {n : Nat} {s : σ} {t : τ}, after n s t →
    (r.backoff n s).1 = (q.backoff n t).1 ∧
      ((r.backoff n s).1 = true → after n (r.backoff n s).2 (q.backoff n t).2) ∧
      ((r.backoff n s).1 = false → before (n + 1) (r.backoff n s).2 (q.backoff n t).2)

/-- Runs whose attempts and delays go in step end alike. -/
theorem attemptsFrom_inStep (h : InStep r q before after) (operation : String) :
    ∀ (left : Nat) {n : Nat} {s : σ} {t : τ}, before n s t →
      (attemptsFrom operation r left n s).1 = (attemptsFrom operation q left n t).1 ∧
        ∃ m, after m (attemptsFrom operation r left n s).2 (attemptsFrom operation q left n t).2
  | left, n, s, t, matched => by
    obtain ⟨same, matched⟩ := h.attempt matched
    rcases hr : r.attempt s with ⟨o, s'⟩
    rcases hq : q.attempt t with ⟨p, t'⟩
    rw [hr, hq] at same matched
    cases same
    -- One case for each way in which an attempt can end or go on, and the other run goes the same
    -- way.
    cases o with
    | ok a =>
      rw [attemptsFrom_ok hr, attemptsFrom_ok hq]
      exact ⟨rfl, n, matched⟩
    | error e =>
      cases retriable : e.shouldRetry with
      | false =>
        rw [attemptsFrom_nonRetriable hr retriable, attemptsFrom_nonRetriable hq retriable]
        exact ⟨rfl, n, matched⟩
      | true =>
        cases left with
        | zero =>
          rw [attemptsFrom_exhausted hr retriable, attemptsFrom_exhausted hq retriable]
          exact ⟨rfl, n, matched⟩
        | succ left =>
          obtain ⟨same, cut, slept⟩ := h.backoff matched
          rcases hr' : r.backoff n s' with ⟨o, s''⟩
          rcases hq' : q.backoff n t' with ⟨p, t''⟩
          rw [hr', hq'] at same cut slept
          cases same
          cases o with
          | true =>
            rw [attemptsFrom_cancelled hr retriable hr', attemptsFrom_cancelled hq retriable hq']
            exact ⟨rfl, n, cut rfl⟩
          | false =>
            rw [attemptsFrom_again hr retriable hr', attemptsFrom_again hq retriable hq']
            exact attemptsFrom_inStep h operation left (slept rfl)

end

namespace Scripted

/-- The course of a scripted run: no share is drawn, and a cancelled token is looked at before a
sleep. -/
def course (s : Scripted) : Course Nat where
  outcome n :=
    match s.script.outcome (n - 1) with
    | none => .ok n
    | some e => .error e
  policy := s.policy
  share _ := 0
  token := s.cancelAt.map .during
  tokenFirst _ := true

/-- The state of a scripted run matches the log of its course after so many calls. -/
structure Matches (s : Scripted) (n : Nat) (t : Scripted) (log : List Entry) : Prop where
  script : t.script = s.script
  policy : t.policy = s.policy
  cancelAt : t.cancelAt = s.cancelAt
  calls : t.calls = n
  logged : Retry.calls log = n

/-- A policy that draws no share has a backoff to sleep where the course has one. -/
theorem isSome_sleep? {p : Policy} {n : Nat} (fixed : p.isExact n = true) (share : Float) :
    (p.sleep? n).isSome = (p.jittered? n share).isSome := by
  unfold Policy.sleep? Policy.jittered?
  cases hd : p.delay? n with
  | none => rfl
  | some d =>
    have still : p.jitter ≤ 0 ∨ d = .zero := by simpa [Policy.isExact, hd] using fixed
    simp [still, fixed]

variable {s : Scripted}

/-- A call of the script is an attempt of the course. -/
theorem matches_attempt {n : Nat} {t : Scripted} {log : List Entry} (h : s.Matches n t log) :
    t.call.1 = (s.course.attempt log).1 ∧ s.Matches (n + 1) t.call.2 (s.course.attempt log).2 := by
  have outcome : t.call.1 = (s.course.attempt log).1 := by
    simp only [call, Course.attempt, course, h.script, h.calls, h.logged, Nat.add_sub_cancel]
    cases s.script.outcome n with
    | none => simp only [Scripted.calls, List.length_cons]; rw [← h.calls]; rfl
    | some e => rfl
  have state : t.call.2 = { t with calledAt := t.slept :: t.calledAt } := by
    unfold call
    simp only
    split <;> rfl
  have logged : Retry.calls (s.course.attempt log).2 = n + 1 := by
    simp only [Course.attempt, Retry.calls, List.countP_append]
    rw [← h.logged]
    rfl
  rw [state]
  exact ⟨outcome, h.script, h.policy, h.cancelAt, congrArg (· + 1) h.calls, logged⟩

/-- The token of the course ends a backoff where the scripted run is cancelled. -/
theorem cuts_course {n : Nat} {t : Scripted} {log : List Entry} (h : s.Matches n t log) (d : Span) :
    s.course.cuts n d = t.isCancelled := by
  simp only [Course.cuts, Course.isCancelledBy, course, Bool.or_true, Bool.and_true, isCancelled,
    h.cancelAt, h.calls]
  cases s.cancelAt with
  | none => rfl
  | some m => rfl

/-- A wait of the script is one of the course. -/
theorem matches_backoff (fixed : ∀ n, s.policy.isExact n = true) {n : Nat} {t : Scripted}
    {log : List Entry} (h : s.Matches n t log) :
    (backoff n t).1 = (s.course.backoff n log).1 ∧
      s.Matches n (backoff n t).2 (s.course.backoff n log).2 := by
  have sleeps : (t.policy.sleep? n).isSome = (s.policy.jittered? n 0).isSome := by
    rw [h.policy]
    exact isSome_sleep? (fixed n) 0
  have delay : s.course.delay? n = s.policy.jittered? n 0 := rfl
  have uncalled : ∀ x : Entry, x.isCall = false → Retry.calls (log ++ [x]) = n := by
    intro x hx
    rw [← h.logged]
    simp only [Retry.calls, List.countP_append, List.countP_cons, List.countP_nil, hx, Nat.add_zero,
      Bool.false_eq_true, if_false]
  unfold backoff Course.backoff
  rw [delay]
  cases hs : t.policy.sleep? n with
  | none =>
    cases hj : s.policy.jittered? n 0 with
    | none => exact ⟨rfl, h.script, h.policy, h.cancelAt, h.calls, uncalled _ rfl⟩
    | some d => rw [hs, hj] at sleeps; cases sleeps
  | some d =>
    cases hj : s.policy.jittered? n 0 with
    | none => rw [hs, hj] at sleeps; cases sleeps
    | some d' =>
      simp only [cuts_course h]
      cases t.isCancelled with
      | true => exact ⟨rfl, h.script, h.policy, h.cancelAt, h.calls, uncalled _ rfl⟩
      | false => exact ⟨rfl, h.script, h.policy, h.cancelAt, h.calls, uncalled _ rfl⟩

/-- The scripted run of a policy that draws no shares comes to what its course comes to, after as many
calls. -/
theorem runPlain_course (operation : String) (maxAttempts : Nat)
    (fixed : ∀ n, s.policy.isExact n = true) (fresh : s.calledAt = []) :
    (s.runPlain operation maxAttempts).1 = (run operation maxAttempts s.course.attempts []).1 ∧
      (s.runPlain operation maxAttempts).2.calls =
        Retry.calls (run operation maxAttempts s.course.attempts []).2 := by
  have inStep : InStep ⟨call, backoff⟩ s.course.attempts
      (fun n t log => s.Matches (n - 1) t log ∧ 1 ≤ n) (fun n t log => s.Matches n t log ∧ 1 ≤ n) := by
    refine ⟨fun {n t log} h => ?_, fun {n t log} h => ?_⟩
    · obtain ⟨same, matched⟩ := matches_attempt h.1
      rw [Nat.sub_add_cancel h.2] at matched
      exact ⟨same, matched, h.2⟩
    · obtain ⟨same, matched⟩ := matches_backoff fixed h.1
      exact ⟨same, fun _ => ⟨matched, h.2⟩, fun _ => ⟨matched, Nat.le_succ_of_le h.2⟩⟩
  have start : s.Matches 0 s [] := ⟨rfl, rfl, rfl, by rw [Scripted.calls, fresh]; rfl, rfl⟩
  obtain ⟨same, n, matched, -⟩ :=
    attemptsFrom_inStep inStep operation (maxAttempts - 1) ⟨start, Nat.le_refl 1⟩
  exact ⟨same, matched.calls.trans matched.logged.symm⟩

/-! ## Behind a breaker -/

/-- The series of a scripted run: no share is drawn, and the clock moves by a moment with every use of
the breaker. -/
def series (s : Scripted) : Series Nat where
  outcome := s.course.outcome
  policy := s.policy
  share _ := 0
  clock uses _ := ⟨s.moment.nanoseconds + uses * 1000⟩

/-- The state of a scripted run is what a stage of its series says. -/
structure Follows (s t : Scripted) (stage : Series.Stage) : Prop where
  script : t.script = s.script
  policy : t.policy = s.policy
  uncancelled : t.cancelAt = none
  calls : t.calls = stage.calls
  breaker : t.breaker = stage.breaker
  moment : t.moment = ⟨s.moment.nanoseconds + stage.uses * 1000⟩

/-- A call notes when it was made, and comes to what the script says. -/
theorem call_eq (t : Scripted) (h : t.script = s.script) :
    t.call = (s.course.outcome (t.calls + 1), { t with calledAt := t.slept :: t.calledAt }) := by
  unfold call
  simp only [course, h, Nat.add_sub_cancel]
  cases s.script.outcome t.calls with
  | none => rfl
  | some e => rfl

/-- A guarded call of the script is an attempt of the series. -/
theorem follows_attempt {t : Scripted} {stage : Series.Stage} (h : s.Follows t stage) :
    (Breaker.guarded place call t).1 = (s.series.attempt stage).1 ∧
      s.Follows (Breaker.guarded place call t).2 (s.series.attempt stage).2 := by
  -- Every use of the breaker takes the script a microsecond.
  have later : ∀ uses, (⟨s.moment.nanoseconds + uses * 1000⟩ + ⟨1000⟩ : Span) =
      ⟨s.moment.nanoseconds + (uses + 1) * 1000⟩ := by
    intro uses
    show (⟨_⟩ : Span) = _
    rw [Nat.add_mul, Nat.one_mul, Nat.add_assoc]
  have arrives : (place.get t).arrive (place.now t) =
      stage.breaker.arrive (s.series.now stage) := by
    show t.breaker.arrive t.moment = _
    rw [h.breaker, h.moment]
    rfl
  rcases ha : stage.breaker.arrive (s.series.now stage) with ⟨admitted, b⟩
  cases admitted with
  | false =>
    rw [Breaker.guarded_of_rejected (arrives.trans ha), Series.attempt_of_rejected ha]
    refine ⟨rfl, h.script, h.policy, h.uncancelled, ?_, rfl, ?_⟩
    · exact h.calls.trans (Series.calls_rejected stage _ _).symm
    · exact (congrArg (· + (⟨1000⟩ : Span)) h.moment).trans (later stage.uses)
  | true =>
    have called := call_eq (place.set b t) h.script
    rw [Breaker.guarded_of_admitted (arrives.trans ha) called, Series.attempt_of_admitted ha]
    have same : s.course.outcome (t.calls + 1) = s.course.outcome (stage.calls + 1) := by rw [h.calls]
    refine ⟨same, h.script, h.policy, h.uncancelled, ?_, ?_, ?_⟩
    · exact (congrArg (· + 1) h.calls).trans (Series.calls_called stage _ _).symm
    · show Breaker.record b (t.moment + ⟨1000⟩)
        ⟨(t.moment + ⟨1000⟩).nanoseconds - (t.moment + ⟨1000⟩).nanoseconds⟩
        (s.course.outcome (t.calls + 1)) = _
      rw [h.moment, later, same]
      rfl
    · show t.moment + ⟨1000⟩ + ⟨1000⟩ = _
      rw [h.moment, later, later]
      rfl

/-- A wait of the script is one of the series. -/
theorem follows_backoff (fixed : ∀ n, s.policy.isExact n = true) {n : Nat} {t : Scripted}
    {stage : Series.Stage} (h : s.Follows t stage) :
    (backoff n t).1 = (s.series.backoff n stage).1 ∧
      s.Follows (backoff n t).2 (s.series.backoff n stage).2 := by
  have sleeps : (t.policy.sleep? n).isSome = (s.policy.jittered? n 0).isSome := by
    rw [h.policy]
    exact isSome_sleep? (fixed n) 0
  have delay : s.series.policy.jittered? n (s.series.share stage.calls) = s.policy.jittered? n 0 := rfl
  have running : t.isCancelled = false := by
    rw [isCancelled, h.uncancelled]
  have uncalled : ∀ e : Series.Entry, e.isCall = false → t.calls = (stage.note e).calls := by
    intro e he
    show t.calls = (stage.log ++ [e]).countP Series.Entry.isCall
    rw [List.countP_append, List.countP_singleton, he]
    exact h.calls
  unfold backoff Series.backoff
  rw [delay]
  cases hs : t.policy.sleep? n with
  | none =>
    cases hj : s.policy.jittered? n 0 with
    | none => exact ⟨rfl, h.script, h.policy, h.uncancelled, uncalled _ rfl, h.breaker, h.moment⟩
    | some d => rw [hs, hj] at sleeps; cases sleeps
  | some d =>
    cases hj : s.policy.jittered? n 0 with
    | none => rw [hs, hj] at sleeps; cases sleeps
    | some d' =>
      simp only [running]
      exact ⟨rfl, h.script, h.policy, h.uncancelled, uncalled _ rfl, h.breaker, h.moment⟩

/-- The scripted run of a policy that draws no shares comes to what the first run of its series comes to,
with as many calls, and leaves the breaker as that does. -/
theorem runGuarded_series (operation : String) (maxAttempts : Nat)
    (fixed : ∀ n, s.policy.isExact n = true) (uncancelled : s.cancelAt = none)
    (fresh : s.calledAt = []) :
    let q := s.series.run operation maxAttempts ⟨s.breaker, [], 0⟩
    (s.runGuarded operation maxAttempts).1 = q.1.result ∧
      (s.runGuarded operation maxAttempts).2.calls = q.2.calls ∧
      (s.runGuarded operation maxAttempts).2.breaker = q.2.breaker := by
  intro q
  have inStep : InStep ⟨Breaker.guarded place call, backoff⟩ s.series.attempts
      (fun _ t stage => s.Follows t stage) (fun _ t stage => s.Follows t stage) := by
    refine ⟨fun h => follows_attempt h, fun h => ?_⟩
    obtain ⟨same, follows⟩ := follows_backoff fixed h
    exact ⟨same, fun _ => follows, fun _ => follows⟩
  have start : s.Follows s ⟨s.breaker, [], 0⟩ :=
    ⟨rfl, rfl, uncancelled, by rw [calls, fresh]; rfl, rfl, by rw [Nat.zero_mul]; rfl⟩
  obtain ⟨same, -, follows⟩ := attemptsFrom_inStep inStep operation (maxAttempts - 1) (n := 1) start
  exact ⟨same, follows.calls, follows.breaker⟩

end Scripted

end WorkDispatch.Retry
