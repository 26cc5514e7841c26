import WorkDispatch.Proofs.Breaker.Untried
import WorkDispatch.Proofs.Retry.Run
import WorkDispatch.Retry.Series

/-!
# Runs behind one breaker

A breaker before every attempt sees the calls of all runs of a series as one row of outcomes, whichever
run makes them. As long as its timeout is never over when an attempt arrives, there are no trials, and it
is open from the call that completes the row of failures: `Kept` says so of every stage. An attempt that
arrives then is turned away in a way that no other would mend, so it is the last of its run (`Kept.run`).

`runs_behind_breaker` says of any runs how many calls they made, from which call on they made none, and
what became of those that met the open breaker. Of runs that go on after the timeout nothing is said.
-/

set_option autoImplicit false

namespace WorkDispatch.Retry

open Breaker (record guarded_of_admitted guarded_of_rejected)

namespace Series

variable {α : Type} {c : Series α} {s t : Stage} {b : Breaker} {name operation : String}
  {config : Breaker.Config}

/-! ## One attempt -/

/-- An arrival at an open breaker meets it open. -/
theorem meetsOpen_of_opened (h : b.state = .opened) (now : Span) :
    (Entry.arrived b now).meetsOpen = true := by
  rw [Entry.meetsOpen, h]
  rfl

/-- One at a closed breaker does not. -/
theorem meetsOpen_of_closed (h : b.state = .closed) (now : Span) :
    (Entry.arrived b now).meetsOpen = false := by
  rw [Entry.meetsOpen, h]
  rfl

/-- The stage after an attempt that was let through, with the breaker as it is then. -/
def Stage.called (s : Stage) (now : Span) (b : Breaker) : Stage :=
  ⟨b, s.log ++ [.arrived s.breaker now, .called (s.calls + 1)], s.uses + 2⟩

/-- The stage after an attempt that was turned away. -/
def Stage.rejected (s : Stage) (now : Span) (b : Breaker) : Stage :=
  ⟨b, s.log ++ [.arrived s.breaker now], s.uses + 1⟩

/-- A call that is made is counted. -/
@[simp] theorem calls_called (s : Stage) (now : Span) (b : Breaker) :
    (s.called now b).calls = s.calls + 1 :=
  List.countP_append

/-- One that is rejected is not. -/
@[simp] theorem calls_rejected (s : Stage) (now : Span) (b : Breaker) :
    (s.rejected now b).calls = s.calls :=
  List.countP_append

/-- The breaker sees an attempt as it was noted. -/
theorem arrive_noted (c : Series α) (s : Stage) :
    (c.place.get (s.note (.arrived s.breaker (c.now s)))).arrive
      (c.place.now (s.note (.arrived s.breaker (c.now s)))) = s.breaker.arrive (c.now s) := by
  have same : (s.note (.arrived s.breaker (c.now s))).calls = s.calls := List.countP_append
  show s.breaker.arrive (c.clock s.uses _) = s.breaker.arrive (c.clock s.uses _)
  rw [same]

/-- What the breaker is told of the next call when it has ended: the call takes from when the clock is
asked after its arrival to when it is asked again. -/
def told (c : Series α) (s : Stage) (b : Breaker) : Breaker :=
  let began := c.clock (s.uses + 1) s.calls
  let ended := c.clock (s.uses + 1) (s.calls + 1)
  record b ended ⟨ended.nanoseconds - began.nanoseconds⟩ (c.outcome (s.calls + 1))

/-- An attempt that is let through makes the next call and comes to what it comes to. -/
theorem attempt_of_admitted (h : s.breaker.arrive (c.now s) = (true, b)) :
    c.attempt s = (c.outcome (s.calls + 1), s.called (c.now s) (c.told s b)) := by
  have calls : (c.place.set b (s.note (.arrived s.breaker (c.now s)))).calls = s.calls :=
    List.countP_append
  have more : ((c.place.set b (s.note (.arrived s.breaker (c.now s)))).note
      (.called (s.calls + 1))).calls = s.calls + 1 :=
    List.countP_append.trans (congrArg (· + 1) calls)
  have makes : c.call (c.place.set b (s.note (.arrived s.breaker (c.now s)))) =
      (c.outcome (s.calls + 1),
        (c.place.set b (s.note (.arrived s.breaker (c.now s)))).note (.called (s.calls + 1))) := by
    rw [call, calls]
  refine (guarded_of_admitted ((c.arrive_noted s).trans h) makes).trans (congrArg (Prod.mk _) ?_)
  show (⟨record b (c.clock (s.uses + 1) _) ⟨(c.clock (s.uses + 1) _).nanoseconds -
    (c.clock (s.uses + 1) _).nanoseconds⟩ _, s.log ++ [_] ++ [_], _⟩ : Stage) = _
  rw [calls, more, List.append_assoc]
  rfl

/-- An attempt that is turned away makes no call. -/
theorem attempt_of_rejected (h : s.breaker.arrive (c.now s) = (false, b)) :
    c.attempt s = (.error (.circuitOpen b.name), s.rejected (c.now s) b) :=
  guarded_of_rejected ((c.arrive_noted s).trans h)

/-- An attempt begins its log with its arrival. -/
theorem attempt_log (c : Series α) (s : Stage) :
    s.log ++ [.arrived s.breaker (c.now s)] <+: (c.attempt s).2.log := by
  rcases h : s.breaker.arrive (c.now s) with ⟨admitted, b⟩
  cases admitted with
  | true =>
    rw [attempt_of_admitted h]
    exact ⟨[.called (s.calls + 1)], List.append_assoc _ _ _⟩
  | false =>
    rw [attempt_of_rejected h]
    exact List.prefix_rfl

/-- A backoff is one more entry, which is neither a call nor an arrival. -/
theorem backoff_note (c : Series α) (n : Nat) (s : Stage) :
    ∃ e, (c.backoff n s).2 = s.note e ∧ e.isCall = false ∧ e.meetsOpen = false := by
  unfold backoff
  cases c.policy.jittered? n (c.share s.calls) with
  | none => exact ⟨.unsleepable n, rfl, rfl, rfl⟩
  | some d => exact ⟨.slept n d, rfl, rfl, rfl⟩

/-! ## Logs only grow -/

/-- An attempt only adds to the log. -/
theorem attempt_grows (c : Series α) (s : Stage) : s.log <+: (c.attempt s).2.log :=
  (List.prefix_append _ _).trans (c.attempt_log s)

/-- So does a wait. -/
theorem backoff_grows (c : Series α) (n : Nat) (s : Stage) : s.log <+: (c.backoff n s).2.log := by
  obtain ⟨e, same, -⟩ := c.backoff_note n s
  rw [same]
  exact List.prefix_append _ _

/-- So do attempts up to their end. -/
theorem ended_grows {left n : Nat} {q : Except Failure α × Stage}
    (h : Ended c.attempts operation left n s q) : s.log <+: q.2.log :=
  h.keeps (p := fun t => s.log <+: t.log) (fun t grown => grown.trans (c.attempt_grows t))
    (fun n t grown => grown.trans (c.backoff_grows n t)) List.prefix_rfl

/-- So does a run. -/
theorem run_grows (c : Series α) (operation : String) (maxAttempts : Nat) (s : Stage) :
    s.log <+: (c.run operation maxAttempts s).2.log :=
  ended_grows (ended_attemptsFrom c.attempts operation (maxAttempts - 1) 1 s)

/-- So do runs one after another. -/
theorem runs_grows (c : Series α) (rounds : List (String × Nat)) (s : Stage) :
    s.log <+: (c.runs rounds s).2.log := by
  induction rounds generalizing s with
  | nil => exact List.prefix_rfl
  | cons round rounds ih => exact (c.run_grows round.1 round.2 s).trans (ih _)

/-! ## What every stage keeps -/

/-- A success ends a row of failures. -/
theorem row_of_ok {n : Nat} {a : α} (h : c.outcome (n + 1) = .ok a) : c.row (n + 1) = 0 := by
  rw [row, h]

/-- A failure makes it longer. -/
theorem row_of_error {n : Nat} {e : Failure} (h : c.outcome (n + 1) = .error e) :
    c.row (n + 1) = c.row n + 1 := by
  rw [row, h]

/-- A breaker that has seen the calls so far, and is open from the one that completed the row of
failures. -/
structure Kept (c : Series α) (name : String) (config : Breaker.Config) (s : Stage) : Prop where
  named : s.breaker.name = name
  configured : s.breaker.config = config
  total : s.breaker.metrics.totalCalls = s.calls
  failures : s.breaker.metrics.consecutiveFailures = c.row s.calls
  state : s.breaker.state =
    if config.failureThreshold ≤ c.row s.calls then .opened else .closed
  /-- No call before the last one completed the row. -/
  least : ∀ k, k < s.calls → c.row k < config.failureThreshold
  rejected : s.breaker.metrics.rejectedCalls = s.log.countP Entry.meetsOpen
  trouble : s.breaker.state = .opened → ∃ t, s.breaker.lastFailure = some t

/-- At the beginning nothing was called. -/
theorem kept_fresh (c : Series α) (name : String) {config : Breaker.Config}
    (hf : 0 < config.failureThreshold) : Kept c name config (fresh name config) where
  named := rfl
  configured := rfl
  total := rfl
  failures := rfl
  state := (if_neg (Nat.not_le.mpr hf)).symm
  least k hk := absurd hk (Nat.not_lt_zero k)
  rejected := rfl
  trouble h := nomatch h

/-- The breaker is open exactly when as many failures came in a row as open it. -/
theorem Kept.opened_iff (k : Kept c name config s) :
    s.breaker.state = .opened ↔ config.failureThreshold ≤ c.row s.calls := by
  rw [k.state]
  split
  · next enough => exact iff_of_true rfl enough
  · next few => exact iff_of_false nofun few

/-- A row grows by one failure at a time. -/
theorem Kept.row_le (k : Kept c name config s) : c.row s.calls ≤ config.failureThreshold := by
  have least := k.least
  generalize s.calls = n at least ⊢
  cases n with
  | zero => exact Nat.zero_le _
  | succ n =>
    cases ho : c.outcome (n + 1) with
    | ok a =>
      rw [row_of_ok ho]
      exact Nat.zero_le _
    | error e =>
      rw [row_of_error ho]
      exact least n (Nat.lt_succ_self n)

/-- While it is kept, the breaker is untried. -/
theorem Kept.untried (k : Kept c name config s) : s.breaker.Untried config where
  configured := k.configured
  state := k.failures ▸ k.state
  few := k.failures ▸ k.row_le
  trouble := k.trouble

/-- A call of a closed breaker is one more, and opens it when it completes the row. -/
theorem Kept.called (k : Kept c name config s) (hc : s.breaker.state = .closed) (arrival now took : Span) :
    Kept c name config
      (s.called arrival (record s.breaker now took (c.outcome (s.calls + 1)))) := by
  -- A breaker that is closed has seen no full row yet, which is what `least` wants of the call
  -- before.
  have few : c.row s.calls < config.failureThreshold := k.failures ▸ k.untried.lt_of_closed hc
  have least : ∀ j, j < s.calls + 1 → c.row j < config.failureThreshold := by
    intro j hj
    rcases Nat.lt_succ_iff_lt_or_eq.mp hj with hj | rfl
    · exact k.least j hj
    · exact few
  have met : ∀ b, (s.called arrival b).log.countP Entry.meetsOpen = s.log.countP Entry.meetsOpen := by
    intro b
    show (s.log ++ [_, _]).countP Entry.meetsOpen = _
    rw [List.countP_append, List.countP_cons, meetsOpen_of_closed hc]
    rfl
  have calls : ∀ b, (s.called arrival b).calls = s.calls + 1 := calls_called s arrival
  have tally := Breaker.record_tally s.breaker now took (c.outcome (s.calls + 1))
  have told := k.untried.record hc now took (c.outcome (s.calls + 1))
  have failures : (record s.breaker now took (c.outcome (s.calls + 1))).metrics.consecutiveFailures =
      c.row (s.calls + 1) := by
    refine (congrArg Breaker.Gauge.failures (Breaker.record_of_closed hc now took _)).trans ?_
    cases ho : c.outcome (s.calls + 1) with
    | ok a => exact (row_of_ok ho).symm
    | error e => exact (congrArg (· + 1) k.failures).trans (row_of_error ho).symm
  exact {
    named := (congrArg Breaker.Tally.name tally).trans k.named
    configured := told.configured
    total := by
      rw [calls]
      exact (congrArg Breaker.Tally.total tally).trans (congrArg (· + 1) k.total)
    failures := by
      rw [calls]
      exact failures
    state := by
      rw [calls, ← failures]
      exact told.state
    least := by
      rw [calls]
      exact least
    rejected := by
      rw [met]
      exact (congrArg Breaker.Tally.rejected tally).trans k.rejected
    trouble := told.trouble }

/-- An attempt that an open breaker turns away keeps all. -/
theorem Kept.turnedAway (k : Kept c name config s) (ho : s.breaker.state = .opened) (arrival : Span) :
    Kept c name config (s.rejected arrival s.breaker.reject) where
  named := k.named
  configured := k.configured
  total := k.total.trans (calls_rejected s _ _).symm
  failures := by
    rw [calls_rejected]
    exact k.failures
  state := by
    rw [calls_rejected]
    exact k.state
  least := by
    rw [calls_rejected]
    exact k.least
  rejected := by
    show s.breaker.metrics.rejectedCalls + 1 = (s.log ++ [_]).countP Entry.meetsOpen
    rw [List.countP_append, List.countP_singleton, if_pos (meetsOpen_of_opened ho _), k.rejected]
  trouble := k.trouble

/-- So does a note of anything else. -/
theorem Kept.note (k : Kept c name config s) {e : Entry} (hc : e.isCall = false)
    (hm : e.meetsOpen = false) : Kept c name config (s.note e) := by
  have calls : (s.note e).calls = s.calls := by
    show (s.log ++ [e]).countP Entry.isCall = _
    rw [List.countP_append, List.countP_singleton, hc]
    rfl
  have met : (s.note e).log.countP Entry.meetsOpen = s.log.countP Entry.meetsOpen := by
    show (s.log ++ [e]).countP Entry.meetsOpen = _
    rw [List.countP_append, List.countP_singleton, hm]
    rfl
  exact ⟨k.named, k.configured, calls ▸ k.total, calls ▸ k.failures, calls ▸ k.state,
    calls ▸ k.least, met ▸ k.rejected, k.trouble⟩

/-! ## One run -/

/-- From one stage to another no attempt arrives at an open breaker. -/
def Undisturbed (s t : Stage) : Prop := ∃ news, t.log = s.log ++ news ∧ ∀ e ∈ news, e.meetsOpen = false

/-- Nothing disturbs where nothing happens. -/
theorem Undisturbed.refl (s : Stage) : Undisturbed s s := ⟨[], (List.append_nil _).symm, nofun⟩

/-- Nor where nothing did in either part. -/
theorem Undisturbed.trans {u : Stage} (h : Undisturbed s t) (h' : Undisturbed t u) :
    Undisturbed s u := by
  obtain ⟨news, same, quiet⟩ := h
  obtain ⟨news', same', quiet'⟩ := h'
  refine ⟨news ++ news', by rw [same', same, List.append_assoc], ?_⟩
  intro e he
  rcases List.mem_append.mp he with he | he
  · exact quiet e he
  · exact quiet' e he

/-- What a run has come to: no attempt of it arrived at an open breaker, or its last one alone did. -/
def Over (name operation : String) (s : Stage) (q : Except Failure α × Stage) : Prop :=
  Undisturbed s q.2 ∨
    ∃ t now, Undisturbed s t ∧ t.breaker.state = .opened ∧
      q.2.log = t.log ++ [.arrived t.breaker now] ∧
      q.1 = .error (.nonRetriable operation (.circuitOpen name))

/-- What is over after an undisturbed part is over. -/
theorem Over.after {q : Except Failure α × Stage} (h : Undisturbed s t)
    (finish : Over name operation t q) : Over name operation s q := by
  rcases finish with quiet | ⟨u, now, quiet, met⟩
  · exact .inl (h.trans quiet)
  · exact .inr ⟨u, now, h.trans quiet, met⟩

/-- A call at a closed breaker disturbs nothing. -/
theorem undisturbed_called (hc : s.breaker.state = .closed) (now : Span) (b : Breaker) :
    Undisturbed s (s.called now b) := by
  refine ⟨_, rfl, ?_⟩
  intro e he
  rcases List.mem_cons.mp he with rfl | he
  · exact meetsOpen_of_closed hc now
  · rw [List.mem_singleton.mp he]
    rfl

/-- An attempt that arrives early enough is let through by a breaker that is not open, and is turned
away by one that is. -/
theorem Kept.attempt (k : Kept c name config s)
    (early : ∀ e ∈ (c.attempt s).2.log, e.isEarly = true) :
    Kept c name config (c.attempt s).2 ∧
      (Undisturbed s (c.attempt s).2 ∨
        s.breaker.state = .opened ∧ (c.attempt s).1 = .error (.circuitOpen name) ∧
          (c.attempt s).2.log = s.log ++ [.arrived s.breaker (c.now s)]) := by
  by_cases ho : s.breaker.state = .opened
  · have arrival : (Entry.arrived s.breaker (c.now s)).isEarly = true :=
      early _ ((c.attempt_log s).subset (List.mem_append_right _ List.mem_cons_self))
    rw [attempt_of_rejected (k.untried.arrive_of_opened ho arrival)]
    exact ⟨k.turnedAway ho _, .inr ⟨ho, by rw [← k.named]; rfl, rfl⟩⟩
  · have hc := k.untried.closed_of_ne ho
    rw [attempt_of_admitted (Breaker.Calls.arrive_of_ne_opened ho (c.now s))]
    exact ⟨k.called hc _ _ _, .inl (undisturbed_called hc _ _)⟩

/-- An attempt that another may mend did not arrive at an open breaker. -/
theorem Kept.failed {e : Failure} (k : Kept c name config s)
    (failed : c.attempt s = (.error e, t)) (retriable : e.shouldRetry = true)
    (early : ∀ e ∈ t.log, e.isEarly = true) : Kept c name config t ∧ Undisturbed s t := by
  have tried := k.attempt
  rw [failed] at tried
  obtain ⟨kept, quiet | ⟨-, refused, -⟩⟩ := tried early
  · exact ⟨kept, quiet⟩
  · -- The breaker's own failure is none that another attempt may mend.
    cases refused
    cases retriable

/-- A wait keeps all, and disturbs nothing. -/
theorem Kept.backoff {n : Nat} {cut : Bool} (k : Kept c name config s)
    (waited : c.backoff n s = (cut, t)) : Kept c name config t ∧ Undisturbed s t := by
  obtain ⟨e, same, call, quiet⟩ := c.backoff_note n s
  rw [waited] at same
  cases same
  refine ⟨k.note call quiet, [e], rfl, ?_⟩
  intro x hx
  rw [List.mem_singleton.mp hx]
  exact quiet

/-- A run ends with the attempt that is turned away, if one is. -/
theorem Kept.run {left n : Nat} {q : Except Failure α × Stage}
    (h : Ended c.attempts operation left n s q) (k : Kept c name config s)
    (early : ∀ e ∈ q.2.log, e.isEarly = true) :
    Kept c name config q.2 ∧ Over name operation s q := by
  induction h with
  | @ok left n s s' a ok =>
    have tried := k.attempt
    rw [show c.attempt s = _ from ok] at tried
    obtain ⟨kept, quiet | ⟨-, refused, -⟩⟩ := tried early
    · exact ⟨kept, .inl quiet⟩
    · cases refused
  | @nonRetriable left n s s' e failed final =>
    have tried := k.attempt
    rw [show c.attempt s = _ from failed] at tried
    obtain ⟨kept, quiet | ⟨opened, refused, arrival⟩⟩ := tried early
    · exact ⟨kept, .inl quiet⟩
    · -- This is how a run ends that meets the open breaker.
      cases refused
      exact ⟨kept, .inr ⟨s, c.now s, .refl s, opened, arrival, rfl⟩⟩
  | exhausted failed retriable =>
    obtain ⟨kept, quiet⟩ := k.failed failed retriable early
    exact ⟨kept, .inl quiet⟩
  | @cancelled left n s s' s'' e failed retriable cut =>
    have grown := c.backoff_grows n s'
    rw [show c.backoff n s' = _ from cut] at grown
    obtain ⟨kept, quiet⟩ := k.failed failed retriable fun e he => early e (grown.subset he)
    obtain ⟨kept, still⟩ := kept.backoff cut
    exact ⟨kept, .inl (quiet.trans still)⟩
  | @again left n s s' s'' q e failed retriable slept rest ih =>
    have grown := c.backoff_grows n s'
    rw [show c.backoff n s' = _ from slept] at grown
    -- That the arrivals are early is known of the whole log, so of the part that is here already.
    have grown := grown.trans (ended_grows rest)
    obtain ⟨kept, quiet⟩ := k.failed failed retriable fun e he => early e (grown.subset he)
    obtain ⟨kept, still⟩ := kept.backoff slept
    obtain ⟨kept, finish⟩ := ih kept early
    exact ⟨kept, finish.after (quiet.trans still)⟩

/-- What is left of a run that met the open breaker: one attempt arrived at it, and nothing happened
after that. The run ended with a failure that wraps that of the breaker. -/
def Report.TurnedAway (name : String) (r : Report α) : Prop :=
  ∃ before b now, r.log = before ++ [.arrived b now] ∧ b.state = .opened ∧
    (∀ e ∈ before, e.meetsOpen = false) ∧
    r.result = .error (.nonRetriable r.operation (.circuitOpen name))

/-- A report tells of an arrival at the open breaker if the run was turned away, and of one only. -/
theorem Over.report {q : Except Failure α × Stage} (finish : Over name operation s q) {r : Report α}
    (hr : r = ⟨operation, q.2.log.drop s.log.length, q.1⟩) :
    (r.metOpen = true → r.TurnedAway name) ∧
      q.2.log.countP Entry.meetsOpen =
        s.log.countP Entry.meetsOpen + if r.metOpen then 1 else 0 := by
  have unmet : ∀ {news : List Entry}, (∀ e ∈ news, e.meetsOpen = false) →
      news.countP Entry.meetsOpen = 0 := by
    intro news quiet
    exact List.countP_eq_zero.mpr fun e he => Bool.eq_false_iff.mp (quiet e he)
  -- Either nothing of what is new met the open breaker, or its last entry did.
  rcases finish with ⟨news, same, quiet⟩ | ⟨t, now, ⟨news, same, quiet⟩, opened, ended, result⟩
  · have log : r.log = news := by
      rw [hr, same, List.drop_left]
    have none : r.metOpen = false := by
      rw [Report.metOpen, log]
      exact List.any_eq_false.mpr fun e he => Bool.eq_false_iff.mp (quiet e he)
    rw [none, same, List.countP_append, unmet quiet]
    exact ⟨nofun, rfl⟩
  · have meets := meetsOpen_of_opened opened now
    have whole : q.2.log = s.log ++ (news ++ [.arrived t.breaker now]) := by
      rw [ended, same, List.append_assoc]
    have log : r.log = news ++ [.arrived t.breaker now] := by
      rw [hr, whole, List.drop_left]
    have met : r.metOpen = true := by
      rw [Report.metOpen, log, List.any_append, List.any_cons, meets]
      exact Bool.or_true _
    rw [met, whole, List.countP_append, List.countP_append, unmet quiet, List.countP_singleton,
      if_pos meets]
    refine ⟨fun _ => ⟨news, t.breaker, now, log, opened, quiet, ?_⟩, rfl⟩
    rw [hr]
    exact result

/-! ## Every series -/

/-- A run keeps all, and reports what it met. -/
theorem Kept.report (operation : String) {maxAttempts : Nat} (k : Kept c name config s)
    (early : ∀ e ∈ (c.run operation maxAttempts s).2.log, e.isEarly = true) :
    let q := c.run operation maxAttempts s
    Kept c name config q.2 ∧ (q.1.metOpen = true → q.1.TurnedAway name) ∧
      q.2.log.countP Entry.meetsOpen =
        s.log.countP Entry.meetsOpen + if q.1.metOpen then 1 else 0 := by
  have ended := ended_attemptsFrom c.attempts operation (maxAttempts - 1) 1 s
  obtain ⟨kept, finish⟩ := k.run ended early
  exact ⟨kept, finish.report rfl⟩

/-- Runs come one after another. -/
theorem runs_cons (c : Series α) (operation : String) (maxAttempts : Nat)
    (rounds : List (String × Nat)) (s : Stage) :
    c.runs ((operation, maxAttempts) :: rounds) s =
      ((c.run operation maxAttempts s).1 :: (c.runs rounds (c.run operation maxAttempts s).2).1,
        (c.runs rounds (c.run operation maxAttempts s).2).2) := rfl

/-- Runs keep all, and each that met the breaker open was turned away. -/
theorem Kept.runs {rounds : List (String × Nat)} (k : Kept c name config s)
    (early : ∀ e ∈ (c.runs rounds s).2.log, e.isEarly = true) :
    Kept c name config (c.runs rounds s).2 ∧
      (∀ r ∈ (c.runs rounds s).1, r.metOpen = true → r.TurnedAway name) ∧
      (c.runs rounds s).2.log.countP Entry.meetsOpen =
        s.log.countP Entry.meetsOpen + (c.runs rounds s).1.countP Report.metOpen := by
  induction rounds generalizing s with
  | nil => exact ⟨k, nofun, rfl⟩
  | cons round rounds ih =>
    obtain ⟨operation, maxAttempts⟩ := round
    rw [runs_cons] at early ⊢
    have grown := c.runs_grows rounds (c.run operation maxAttempts s).2
    obtain ⟨kept, turned, met⟩ :=
      k.report operation fun e he => early e (grown.subset he)
    obtain ⟨kept, others, more⟩ := ih kept early
    refine ⟨kept, ?_, ?_⟩
    · intro r hr
      rcases List.mem_cons.mp hr with rfl | hr
      · exact turned
      · exact others r hr
    · simp only [List.countP_cons]
      omega

/-- When every call fails, the row is all of them. -/
theorem row_of_failing (failing : ∀ n, ∃ e, c.outcome (n + 1) = .error e) (n : Nat) : c.row n = n := by
  induction n with
  | zero => rfl
  | succ n ih =>
    obtain ⟨e, he⟩ := failing n
    rw [row_of_error he, ih]

/-- Any runs behind a new breaker, of operations with any numbers of attempts, none of which arrives
when the breaker is open and its timeout since the last trouble is over. The operation was called as
often as the breaker counted calls. The breaker is open if and only if the last call completed the row
of failures, and after such a call there was none. Every run that met the open breaker had one attempt
turned away, and with this it was over; the breaker counted one rejection for each of these runs. If
every call fails there are no more of them than complete the row. -/
theorem runs_behind_breaker (c : Series α) (name : String) {config : Breaker.Config}
    (hf : 0 < config.failureThreshold) (rounds : List (String × Nat))
    (early : ∀ e ∈ (c.runs rounds (fresh name config)).2.log, e.isEarly = true) :
    let reports := (c.runs rounds (fresh name config)).1
    let s := (c.runs rounds (fresh name config)).2
    s.calls = s.breaker.metrics.totalCalls ∧
      (s.breaker.state = .opened ↔ config.failureThreshold ≤ c.row s.calls) ∧
      (∀ n, config.failureThreshold ≤ c.row n → s.calls ≤ n) ∧
      (∀ r ∈ reports, r.metOpen = true → r.TurnedAway name) ∧
      s.breaker.metrics.rejectedCalls = reports.countP Report.metOpen ∧
      ((∀ n, ∃ e, c.outcome (n + 1) = .error e) → s.calls ≤ config.failureThreshold) := by
  intro reports s
  obtain ⟨kept, turned, met⟩ := (c.kept_fresh name hf).runs early
  have none_after : ∀ n, config.failureThreshold ≤ c.row n → s.calls ≤ n := by
    intro n enough
    refine Nat.le_of_not_lt fun later => ?_
    exact Nat.not_le.mpr (kept.least n later) enough
  refine ⟨kept.total.symm, kept.opened_iff, none_after, turned, ?_, ?_⟩
  · rw [kept.rejected, met]
    exact Nat.zero_add _
  · intro failing
    exact none_after _ (Nat.le_of_eq (row_of_failing failing _).symm)

/-- No call succeeds, and time passes with every change of the breaker. -/
def refusing : Series Nat where
  outcome _ := .error (.transport "refused")
  policy := .fast 3
  share _ := 0
  clock uses _ := ⟨uses⟩

/-- Three runs of at most three attempts each. -/
def refusals : List (Report Nat) × Stage :=
  refusing.runs [("connect", 3), ("connect", 3), ("connect", 3)] (fresh "connection" .connection)

/-- Five of the attempts are calls. The last of them is the second of the second run, whose third attempt
is turned away; so is the first one of the third run. -/
theorem runs_behind_breaker_refusing :
    refusals.2.calls = 5 ∧ refusals.2.breaker.metrics.totalCalls = 5 ∧
      refusals.2.breaker.metrics.rejectedCalls = 2 ∧
      refusals.1.map Report.metOpen = [false, true, true] ∧
      ∀ r ∈ refusals.1, r.metOpen = true → r.TurnedAway "connection" := by
  have few : 0 < Breaker.Config.connection.failureThreshold := by decide
  have early : ∀ e ∈ refusals.2.log, e.isEarly = true := by decide +kernel
  have calls : refusals.2.calls = 5 := by decide +kernel
  have met : refusals.1.map Report.metOpen = [false, true, true] := by decide +kernel
  have twice : refusals.1.countP Report.metOpen = 2 := by decide +kernel
  unfold refusals at early calls met twice ⊢
  obtain ⟨total, -, -, turned, rejected, -⟩ := runs_behind_breaker refusing "connection" few _ early
  exact ⟨calls, total.symm.trans calls, rejected.trans twice, met, turned⟩

end Series

end WorkDispatch.Retry
