import Mathlib.Data.List.Forall2
import WorkDispatch.Proofs.Breaker.Untried
import WorkDispatch.Proofs.Retry.Course
import WorkDispatch.Proofs.Retry.Script
import WorkDispatch.Retry.Rounds

/-!
# Runs as a whole behind a breaker

A breaker before a whole run sees one outcome of it, however many attempts it makes and whichever way
it ends. So as long as no round arrives when the breaker is open and its timeout is over, the breaker is
decided by the rounds that failed in a row, and those that it lets through are no more than it takes to
open it, if none succeeds. A run makes at most as many calls as it has attempts.

`rounds_behind_breaker` says of any rounds what each of them comes to and what it does to the breaker,
and how many calls all of them make. Of rounds that go on after the timeout nothing is said. A backoff
that has no length ends its run like a cancellation here. The scripted run behind its breaker is a round
of its course (`guardedRun_round`).
-/

set_option autoImplicit false

namespace WorkDispatch.Retry

open Breaker (record guarded_of_admitted guarded_of_rejected)

variable {α : Type}

/-! ## The calls of a run -/

namespace Course

variable {c : Course α} {operation : String}

variable {n left : Nat} {log log' : List Entry}

/-- An attempt is one call. -/
theorem calls_of_attempt {o : Except Failure α} (h : c.attempts.attempt log = (o, log')) :
    calls log' = calls log + 1 := by
  have made : calls (c.attempts.attempt log).2 = calls log + 1 := calls_append log _
  rwa [h] at made

/-- A backoff is one more entry, which is no call. -/
theorem calls_of_backoff {cut : Bool} (h : c.attempts.backoff n log = (cut, log')) :
    calls log' = calls log := by
  have waited : calls (c.backoff n log).2 = calls log := by
    unfold backoff
    split
    · exact calls_append log _
    · split
      · exact calls_append log _
      · exact calls_append log _
  rwa [show c.backoff n log = _ from h] at waited

/-- Attempts make one call each, the first of them always. -/
theorem calls_ended {q : Except Failure α × List Entry} (h : Ended c.attempts operation left n log q) :
    calls log + 1 ≤ calls q.2 ∧ calls q.2 ≤ calls log + 1 + left := by
  induction h with
  | ok ok =>
    have made := calls_of_attempt ok
    exact ⟨Nat.le_of_eq made.symm, Nat.le_trans (Nat.le_of_eq made) (Nat.le_add_right _ _)⟩
  | nonRetriable failed final =>
    have made := calls_of_attempt failed
    exact ⟨Nat.le_of_eq made.symm, Nat.le_trans (Nat.le_of_eq made) (Nat.le_add_right _ _)⟩
  | exhausted failed retriable =>
    have made := calls_of_attempt failed
    exact ⟨Nat.le_of_eq made.symm, Nat.le_of_eq made⟩
  | cancelled failed retriable cut =>
    have made := (calls_of_backoff cut).trans (calls_of_attempt failed)
    exact ⟨Nat.le_of_eq made.symm, Nat.le_trans (Nat.le_of_eq made) (Nat.le_add_right _ _)⟩
  | again failed retriable slept rest ih =>
    have made := (calls_of_backoff slept).trans (calls_of_attempt failed)
    omega

/-- No run without a success among its calls comes to one. -/
theorem failed_ended {q : Except Failure α × List Entry}
    (h : Ended c.attempts operation left n log q) (failing : ∀ n, ∃ e, c.outcome (n + 1) = .error e) :
    q.1.isOk = false := by
  induction h with
  | @ok left n log log' a ok =>
    obtain ⟨e, he⟩ := failing (calls log)
    have came : c.outcome (calls log + 1) = .ok a := congrArg Prod.fst ok
    cases he.symm.trans came
  | nonRetriable failed final => rfl
  | exhausted failed retriable => rfl
  | cancelled failed retriable cut => rfl
  | again failed retriable slept rest ih => exact ih

end Course

namespace Round

variable {clock : Stage → Span} {name : String} {config : Breaker.Config} {r : Round α} {s : Stage}

/-- A round alone makes one call at least and as many as it has attempts at most. -/
theorem calls_alone (r : Round α) :
    1 ≤ calls r.alone.2 ∧ calls r.alone.2 ≤ max 1 r.maxAttempts := by
  have made := Course.calls_ended
    (ended_attemptsFrom r.course.attempts r.operation (r.maxAttempts - 1) 1 [])
  have none : calls [] = 0 := rfl
  rw [none] at made
  refine ⟨made.1, Nat.le_trans made.2 ?_⟩
  omega

/-- A round that only fails fails. -/
theorem failed_alone (r : Round α) (failing : ∀ n, ∃ e, r.course.outcome (n + 1) = .error e) :
    r.alone.1.isOk = false :=
  Course.failed_ended (ended_attemptsFrom r.course.attempts r.operation (r.maxAttempts - 1) 1 []) failing

/-! ## One round -/

/-- A round does not arrive at an open breaker whose timeout since the last trouble is over. -/
def Report.isEarly (p : Report α) : Bool := p.before.isEarly p.arrival

/-- What a round comes to: the breaker was closed, the round came to what it comes to by itself and
the breaker was told of that once; or the breaker was open, no call was made and the round was counted
as turned away. -/
inductive Settled (name : String) (r : Round α) : Report α → Prop
  | admitted {b : Breaker} {arrival now took : Span} (closed : b.state = .closed) :
    Settled name r ⟨b, arrival, r.alone.2, r.alone.1, record b now took r.alone.1⟩
  | rejected {b : Breaker} {arrival : Span} (opened : b.state = .opened) :
    Settled name r ⟨b, arrival, [], .error (.circuitOpen name), b.reject⟩

/-- What the breaker of a stage was told of a round that it let through. -/
def told (clock : Stage → Span) (r : Round α) (s : Stage) (b : Breaker) : Breaker :=
  let start := clock ⟨b, s.log, s.uses + 1⟩
  let now := clock ⟨b, s.log ++ r.alone.2, s.uses + 1⟩
  record b now ⟨now.nanoseconds - start.nanoseconds⟩ r.alone.1

/-- A round that the breaker lets through is run as it would be alone, and recorded once. -/
theorem guarded_of_passed {b : Breaker} (h : s.breaker.arrive (clock s) = (true, b)) :
    r.guarded clock s =
      (⟨s.breaker, clock s, r.alone.2, r.alone.1, r.told clock s b⟩,
        ⟨r.told clock s b, s.log ++ r.alone.2, s.uses + 2⟩) := by
  have passed : ((place clock).get s).arrive ((place clock).now s) = (true, b) := h
  have ran : r.admitted ((place clock).set b s) = (r.alone.1, ⟨b, s.log ++ r.alone.2, s.uses + 1⟩) := rfl
  have shown : (s.log ++ r.alone.2).drop s.log.length = r.alone.2 := List.drop_left
  unfold guarded
  rw [guarded_of_admitted passed ran]
  show ((⟨_, _, (s.log ++ r.alone.2).drop s.log.length, _, _⟩ : Report α), _) = _
  rw [shown]
  rfl

/-- A round that the breaker turns away makes no call. -/
theorem guarded_of_turned {b : Breaker} (h : s.breaker.arrive (clock s) = (false, b)) :
    r.guarded clock s =
      (⟨s.breaker, clock s, [], .error (.circuitOpen b.name), b⟩, ⟨b, s.log, s.uses + 1⟩) := by
  have turned : ((place clock).get s).arrive ((place clock).now s) = (false, b) := h
  unfold guarded
  rw [guarded_of_rejected turned]
  simp only [place, List.drop_length]

/-- A round that arrives early enough is settled, and leaves the breaker untried. -/
theorem settled_guarded (r : Round α) (h : s.breaker.Untried config) (named : s.breaker.name = name)
    (early : (r.guarded clock s).1.isEarly = true) :
    let q := r.guarded clock s
    Settled name r q.1 ∧ q.1.before = s.breaker ∧ q.1.after = q.2.breaker ∧
      q.2.log = s.log ++ q.1.log ∧ q.2.breaker.Untried config ∧ q.2.breaker.name = name := by
  intro q
  by_cases opened : s.breaker.state = .opened
  · have turned := guarded_of_turned (r := r) (h.arrive_of_opened opened early)
    have whose : s.breaker.reject.name = name := named
    rw [whose] at turned
    rw [show q = _ from turned]
    exact ⟨.rejected opened, rfl, rfl, (List.append_nil _).symm, h.reject, named⟩
  · have closed := h.closed_of_ne opened
    have ran := guarded_of_passed (r := r) (Breaker.Calls.arrive_of_ne_opened opened (clock s))
    rw [show q = _ from ran]
    have same : (r.told clock s s.breaker).name = s.breaker.name :=
      congrArg Breaker.Tally.name (Breaker.record_tally s.breaker _ _ r.alone.1)
    exact ⟨.admitted closed, rfl, rfl, rfl, h.record closed _ _ _, same.trans named⟩

/-- A round is one call more for the breaker if it was let through, and one turned away if not. -/
theorem Settled.tally {p : Report α} (h : Settled name r p) :
    p.after.tally =
      { p.before.tally with
        total := p.before.tally.total + if p.isAdmitted then 1 else 0
        good := p.before.tally.good + if p.result.isOk then 1 else 0
        bad := p.before.tally.bad + if p.isAdmitted && !p.result.isOk then 1 else 0
        rejected := p.before.tally.rejected + if p.isAdmitted then 0 else 1 } := by
  cases h with
  | @admitted b arrival now took closed =>
    have passed : (b.state != .opened) = true := by
      rw [closed]
      rfl
    refine (Breaker.record_tally b now took r.alone.1).trans ?_
    simp only [Report.isAdmitted, passed, if_true, Bool.true_and, Nat.add_zero]
    cases r.alone.1.isOk with
    | true => rfl
    | false => rfl
  | @rejected b arrival opened =>
    have turned : (b.state != .opened) = false := by
      rw [opened]
      rfl
    simp only [Report.isAdmitted, turned, Bool.false_and, Bool.false_eq_true, if_false, Except.isOk,
      Except.toBool]
    rfl

/-- If no call of a round succeeds, the failures in a row are more by one when it was let through. -/
theorem Settled.failures {p : Report α} (h : Settled name r p)
    (failing : ∀ n, ∃ e, r.course.outcome (n + 1) = .error e) :
    p.after.metrics.consecutiveFailures =
      p.before.metrics.consecutiveFailures + if p.isAdmitted then 1 else 0 := by
  cases h with
  | @admitted b arrival now took closed =>
    have passed : (b.state != .opened) = true := by
      rw [closed]
      rfl
    have told := congrArg Breaker.Gauge.failures (Breaker.record_of_closed closed now took r.alone.1)
    simp only [failed_alone r failing, Bool.false_eq_true, if_false] at told
    simp only [Report.isAdmitted, passed, if_true]
    exact told
  | @rejected b arrival opened =>
    have turned : (b.state != .opened) = false := by
      rw [opened]
      rfl
    simp only [Report.isAdmitted, turned, Bool.false_eq_true, if_false]
    rfl

/-- A round makes no call unless it was let through, and then no more than it has attempts. -/
theorem Settled.calls_le {p : Report α} (h : Settled name r p) :
    calls p.log ≤ (if p.isAdmitted then 1 else 0) * max 1 r.maxAttempts := by
  cases h with
  | @admitted b arrival now took closed =>
    have passed : (b.state != .opened) = true := by
      rw [closed]
      rfl
    simp only [Report.isAdmitted, passed, if_true, Nat.one_mul]
    exact (calls_alone r).2
  | rejected opened => exact Nat.zero_le _

/-! ## Rounds one after the other -/

/-- Rounds are run one after another. -/
theorem runs_cons (clock : Stage → Span) (r : Round α) (rs : List (Round α)) (s : Stage) :
    runs clock (r :: rs) s =
      ((r.guarded clock s).1 :: (runs clock rs (r.guarded clock s).2).1,
        (runs clock rs (r.guarded clock s).2).2) := rfl

/-- What rounds leave behind. -/
structure Told (name : String) (config : Breaker.Config) (rounds : List (Round α)) (s t : Stage)
    (ps : List (Report α)) : Prop where
  settled : List.Forall₂ (Settled name) rounds ps
  logged : t.log = s.log ++ ps.flatMap Report.log
  total : t.breaker.tally.total = s.breaker.tally.total + ps.countP Report.isAdmitted
  good : t.breaker.tally.good = s.breaker.tally.good + ps.countP fun p => p.result.isOk
  rejected : t.breaker.tally.rejected = s.breaker.tally.rejected + ps.countP fun p => !p.isAdmitted
  untried : t.breaker.Untried config
  failing : ∀ m, (∀ r ∈ rounds, r.maxAttempts ≤ m ∧ ∀ n, ∃ e, r.course.outcome (n + 1) = .error e) →
    calls s.log ≤ s.breaker.metrics.consecutiveFailures * max 1 m →
    calls t.log ≤ t.breaker.metrics.consecutiveFailures * max 1 m

/-- Rounds that come early leave behind what was told of them. -/
theorem told_runs {rounds : List (Round α)} (h : s.breaker.Untried config)
    (named : s.breaker.name = name)
    (early : ∀ p ∈ (runs clock rounds s).1, p.isEarly = true) :
    Told name config rounds s (runs clock rounds s).2 (runs clock rounds s).1 := by
  induction rounds generalizing s with
  | nil => exact ⟨.nil, (List.append_nil _).symm, rfl, rfl, rfl, h, fun _ _ few => few⟩
  | cons r rs ih =>
    rw [runs_cons] at early ⊢
    obtain ⟨settled, before, after, log, untried, named⟩ :=
      settled_guarded r h named (early _ List.mem_cons_self)
    have told := ih untried named fun p hp => early p (List.mem_cons_of_mem _ hp)
    have tally := settled.tally
    rw [before, after] at tally
    have total : (r.guarded clock s).2.breaker.tally.total = s.breaker.tally.total + _ :=
      congrArg Breaker.Tally.total tally
    have good : (r.guarded clock s).2.breaker.tally.good = s.breaker.tally.good + _ :=
      congrArg Breaker.Tally.good tally
    have rejected : (r.guarded clock s).2.breaker.tally.rejected = s.breaker.tally.rejected + _ :=
      congrArg Breaker.Tally.rejected tally
    refine ⟨.cons settled told.settled, ?_, ?_, ?_, ?_, told.untried, fun m hm few => ?_⟩
    · rw [told.logged, log, List.flatMap_cons, List.append_assoc]
    · rw [told.total, total, List.countP_cons]
      omega
    · rw [told.good, good, List.countP_cons]
      omega
    -- Of a round that was turned away one more is told here, and none of a round that was admitted.
    · rw [told.rejected, rejected, List.countP_cons]
      cases (r.guarded clock s).1.isAdmitted with
      | true => rfl
      | false =>
        simp only [Bool.not_false, Bool.false_eq_true, if_false, if_true]
        omega
    · refine told.failing m (fun r' hr' => hm r' (List.mem_cons_of_mem _ hr')) ?_
      obtain ⟨attempts, failing⟩ := hm r List.mem_cons_self
      have failures := settled.failures failing
      have made := settled.calls_le
      have most : max 1 r.maxAttempts ≤ max 1 m := by omega
      rw [before, after] at failures
      rw [log, Course.calls_append, failures, Nat.add_mul]
      exact Nat.add_le_add few (Nat.le_trans made (Nat.mul_le_mul_left _ most))

/-- Any rounds behind a new breaker, none of which arrives when the breaker is open and its timeout since
the last trouble is over. Each of them is settled: of one that was let through, the breaker is told once,
and of one that was not, nothing was called. So the breaker counted the rounds that it let through, those
of them that succeeded, and those that it turned away. If no call succeeds, those that are let through
are no more than open the breaker, and each makes no more calls than it has attempts. -/
theorem rounds_behind_breaker (clock : Stage → Span) (name : String) {config : Breaker.Config}
    (hf : 0 < config.failureThreshold) (rounds : List (Round α))
    (early : ∀ p ∈ (runs clock rounds (fresh name config)).1, p.isEarly = true) :
    let reports := (runs clock rounds (fresh name config)).1
    let s := (runs clock rounds (fresh name config)).2
    List.Forall₂ (Settled name) rounds reports ∧
      s.log = reports.flatMap Report.log ∧
      s.breaker.metrics.totalCalls = reports.countP Report.isAdmitted ∧
      s.breaker.metrics.successCount = (reports.countP fun p => p.result.isOk) ∧
      s.breaker.metrics.rejectedCalls = (reports.countP fun p => !p.isAdmitted) ∧
      ∀ m, (∀ r ∈ rounds, r.maxAttempts ≤ m ∧ ∀ n, ∃ e, r.course.outcome (n + 1) = .error e) →
        calls s.log ≤ config.failureThreshold * max 1 m := by
  intro reports s
  have told := told_runs (Breaker.untried_new name hf) rfl early
  refine ⟨told.settled, told.logged, told.total.trans (Nat.zero_add _),
    told.good.trans (Nat.zero_add _), told.rejected.trans (Nat.zero_add _), fun m hm => ?_⟩
  have made := told.failing m hm (Nat.zero_le _)
  exact Nat.le_trans made (Nat.mul_le_mul_right _ told.untried.few)

/-- A round of three attempts, none of which succeeds. -/
def refused : Round Nat where
  operation := "register"
  maxAttempts := 3
  course :=
    { outcome := fun _ => .error (.transport "refused")
      policy := .fast 3
      share := fun _ => 0
      token := none
      tokenFirst := fun _ => false }

/-- The same round, cancelled during its second call. -/
def abandoned : Round Nat := { refused with course := { refused.course with token := some (.during 2) } }

/-- Four rounds behind a breaker that opens with the second failure; time passes with every change of the
breaker. -/
def outage : List (Report Nat) × Stage :=
  runs (fun s => ⟨s.uses⟩) [refused, abandoned, refused, refused]
    (fresh "worker_registration" ⟨2, 1, .ofSeconds 60⟩)

/-- The first round makes three calls and the second one two; the others are turned away. -/
theorem rounds_behind_breaker_outage :
    outage.1.map Report.result =
        [.error (.retriesExhausted "register" 3 (.transport "refused")),
          .error (.cancelled "register cancelled during backoff after 2 attempts"),
          .error (.circuitOpen "worker_registration"), .error (.circuitOpen "worker_registration")] ∧
      outage.2.breaker.metrics.totalCalls = 2 ∧ outage.2.breaker.metrics.successCount = 0 ∧
      outage.2.breaker.metrics.rejectedCalls = 2 ∧ calls outage.2.log = 5 ∧ calls outage.2.log ≤ 2 * 3 := by
  have few : 0 < (⟨2, 1, .ofSeconds 60⟩ : Breaker.Config).failureThreshold := by decide
  have early : ∀ p ∈ outage.1, p.isEarly = true := by decide +kernel
  refine ⟨by decide +kernel, ?_⟩
  have made : calls outage.2.log = 5 := by decide +kernel
  have passed : outage.1.countP Report.isAdmitted = 2 := by decide +kernel
  have well : (outage.1.countP fun p => p.result.isOk) = 0 := by decide +kernel
  have turned : (outage.1.countP fun p => !p.isAdmitted) = 2 := by decide +kernel
  have failing : ∀ r ∈ [refused, abandoned, refused, refused],
      r.maxAttempts ≤ 3 ∧ ∀ n, ∃ e, r.course.outcome (n + 1) = .error e := by
    intro r hr
    simp only [List.mem_cons, List.not_mem_nil, or_false] at hr
    obtain rfl | rfl | rfl | rfl := hr
    all_goals exact ⟨by decide, fun _ => ⟨_, rfl⟩⟩
  unfold outage at early made passed well turned ⊢
  obtain ⟨-, -, total, good, rejected, bound⟩ := rounds_behind_breaker _ "worker_registration" few _ early
  exact ⟨total.trans passed, good.trans well, rejected.trans turned, made, bound 3 failing⟩

end Round

/-! ## Scripted rounds -/

namespace Scripted

variable {s : Scripted}

/-- A run without a breaker leaves the breaker and its clock alone. -/
theorem runPlain_keeps (s : Scripted) (operation : String) (maxAttempts : Nat) :
    (s.runPlain operation maxAttempts).2.breaker = s.breaker ∧
      (s.runPlain operation maxAttempts).2.moment = s.moment := by
  have ended := ended_attemptsFrom ⟨call, backoff⟩ operation (maxAttempts - 1) 1 s
  refine ended.keeps (p := fun t => t.breaker = s.breaker ∧ t.moment = s.moment)
    (fun t kept => ?_) (fun n t kept => ?_) ⟨rfl, rfl⟩
  · show t.call.2.breaker = s.breaker ∧ t.call.2.moment = s.moment
    unfold call
    simp only
    split
    · exact kept
    · exact kept
  · show (t.backoff n).2.breaker = s.breaker ∧ (t.backoff n).2.moment = s.moment
    unfold backoff
    split
    · exact kept
    · split
      · exact kept
      · exact kept

/-- The whole scripted run behind its breaker is a round of its course: it comes to the same with as many
calls, and leaves the breaker as that does. -/
theorem guardedRun_round (operation : String) (maxAttempts : Nat)
    (fixed : ∀ n, s.policy.isExact n = true) (fresh : s.calledAt = []) :
    let q := (⟨operation, maxAttempts, s.course⟩ : Round Nat).guarded
      (fun t => ⟨s.moment.nanoseconds + t.uses * 1000⟩) ⟨s.breaker, [], 0⟩
    (s.guardedRun operation maxAttempts).1 = q.1.result ∧
      (s.guardedRun operation maxAttempts).2.calls = Retry.calls q.1.log ∧
      (s.guardedRun operation maxAttempts).2.breaker = q.1.after := by
  intro q
  let stage : Round.Stage := ⟨s.breaker, [], 0⟩
  let clock : Round.Stage → Span := fun t => ⟨s.moment.nanoseconds + t.uses * 1000⟩
  -- The clock of the round moves with every use of the breaker; before the first it tells the
  -- moment of the script.
  have moment : clock stage = s.moment := congrArg Span.mk (by rw [Nat.zero_mul]; rfl)
  rcases arrived : s.breaker.arrive s.moment with ⟨isAdmitted, b⟩
  have arrived' : stage.breaker.arrive (clock stage) = (isAdmitted, b) := by
    rw [moment]
    exact arrived
  cases isAdmitted with
  | false =>
    have turned : s.guardedRun operation maxAttempts = _ := guarded_of_rejected arrived
    rw [turned, show q = _ from Round.guarded_of_turned arrived']
    refine ⟨rfl, ?_, rfl⟩
    show s.calledAt.length = 0
    rw [fresh]
    rfl
  | true =>
    let t := place.set b s
    have moved : t.moment = ⟨s.moment.nanoseconds + 1 * 1000⟩ := by
      rw [Nat.one_mul]
      rfl
    obtain ⟨same, calls⟩ := runPlain_course (s := t) operation maxAttempts fixed fresh
    obtain ⟨breaker, now⟩ := runPlain_keeps t operation maxAttempts
    rcases ran : t.runPlain operation maxAttempts with ⟨result, u⟩
    simp only [ran] at same calls breaker now
    have passed : s.guardedRun operation maxAttempts = _ := guarded_of_admitted arrived ran
    rw [passed, show q = _ from Round.guarded_of_passed arrived']
    refine ⟨same, calls, ?_⟩
    show record u.breaker u.moment ⟨u.moment.nanoseconds - t.moment.nanoseconds⟩ result = _
    rw [now, moved, same, breaker]
    rfl

end Scripted

end WorkDispatch.Retry
