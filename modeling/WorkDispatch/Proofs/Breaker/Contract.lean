import WorkDispatch.Proofs.Breaker.History

/-!
# The three states

What a breaker decides depends on its `Gauge`, and there is one lemma for what each operation does to
it. `Kept` says how the gauge is read off the history. Every operation keeps this, in whatever state
it finds the breaker, so `kept` holds of every history.

`moves_by_contract` is the contract of the three states: when each of them is left and for which,
what becomes of a call that arrives in it, and what the failures in a row are. Nothing is said of how
many calls there were in all, or of how long they took.
-/

set_option autoImplicit false

namespace WorkDispatch.Breaker

/-! ## What decides -/

/-- What of a breaker decides over calls. -/
structure Gauge where
  config : Config
  state : State
  lastFailure : Option Span
  failures : Nat
  successes : Nat

def gauge (b : Breaker) : Gauge where
  config := b.config
  state := b.state
  lastFailure := b.lastFailure
  failures := b.metrics.consecutiveFailures
  successes := b.metrics.consecutiveSuccesses

/-- A call that arrives changes nothing unless it begins the trial of an open breaker. -/
theorem arrive_gauge (b : Breaker) (now : Span) :
    (b.arrive now).2.gauge =
      if b.state = .opened ∧ b.isDue now then { b.gauge with state := .halfOpen, successes := 0 }
      else b.gauge := by
  unfold arrive
  cases hs : b.state with
  | closed => rfl
  | halfOpen => rfl
  | opened =>
    cases hd : b.isDue now with
    | true => rfl
    | false => simp only [Bool.false_eq_true, and_false, if_false]; rfl

/-- A success counts on trial only, where it may close the breaker. -/
theorem recordSuccess_gauge (b : Breaker) (took : Span) :
    (b.recordSuccess took).gauge =
      if b.state = .halfOpen then
        if b.config.successThreshold ≤ b.gauge.successes + 1 then
          { b.gauge with state := .closed, failures := 0, successes := 0 }
        else { b.gauge with failures := 0, successes := b.gauge.successes + 1 }
      else { b.gauge with failures := 0 } := by
  show _ = if b.metrics.state = .halfOpen then _ else _
  unfold recordSuccess
  by_cases hs : b.metrics.state = .halfOpen
  · simp only [hs, true_and, if_true]
    by_cases enough : b.config.successThreshold ≤ b.metrics.consecutiveSuccesses + 1
    · rw [if_pos enough]
      exact (if_pos enough).symm
    · rw [if_neg enough, show b.gauge = { b.gauge with state := .halfOpen } by rw [← hs]; rfl]
      exact (if_neg enough).symm
  · simp only [hs, false_and, if_false]; rfl

/-- A failure leaves the breaker open, but for a closed one that has not had enough of them. -/
theorem recordFailure_gauge (b : Breaker) (now took : Span) :
    (b.recordFailure now took).gauge =
      { b.gauge with
        state := if b.state = .closed ∧ b.gauge.failures + 1 < b.config.failureThreshold then .closed
          else .opened
        lastFailure := some now
        failures := b.gauge.failures + 1
        successes := 0 } := by
  obtain ⟨name, config, last, ⟨total, good, bad, rejected, transitions, fs, ss, spent, state⟩⟩ := b
  cases state with
  | closed =>
    show gauge (if config.failureThreshold ≤ fs + 1 then _ else _) = _
    simp only [gauge, Breaker.state, true_and]
    by_cases enough : config.failureThreshold ≤ fs + 1
    · rw [if_pos enough, if_neg (Nat.not_lt.2 enough)]; rfl
    · rw [if_neg enough, if_pos (Nat.lt_of_not_le enough)]
  | halfOpen => simp only [gauge, Breaker.state, reduceCtorEq, false_and, if_false]; rfl
  | opened => simp only [gauge, Breaker.state, reduceCtorEq, false_and, if_false]; rfl

/-- Forced open, a breaker counts from then. -/
theorem forceOpen_gauge (b : Breaker) (now : Span) :
    (b.forceOpen now).gauge =
      { b.gauge with state := .opened, lastFailure := some now, successes := 0 } := rfl

/-- Forced closed, it counts from zero. -/
theorem forceClosed_gauge (b : Breaker) :
    b.forceClosed.gauge = { b.gauge with state := .closed, failures := 0, successes := 0 } := rfl

namespace Calls

variable {name : String} {config : Config} {log : List Entry} {c c' : Calls}

/-! ## What every operation keeps -/

/-- A gauge that is what the history says, with each count below the threshold that ends it. -/
structure Kept (config : Config) (log : List Entry) (g : Gauge) : Prop where
  configured : g.config = config
  failures : g.failures = failuresInRow log
  closed : g.state = .closed → g.failures < config.failureThreshold
  trouble : g.lastFailure = lastTrouble log
  opened : g.state = .opened → g.lastFailure ≠ none
  trial : g.state = .halfOpen →
    g.successes = trialSuccesses log ∧ g.successes < config.successThreshold
  outside : g.state ≠ .halfOpen → g.successes = 0

/-- A step that records nothing and leaves the gauge as it was. -/
theorem Kept.quiet {g : Gauge} (k : Kept config log g) {now : Span} {s : Step}
    (hs : s.succeeds = false) (hf : s.fails = false) (ho : s ≠ .forceOpen) (hc : s ≠ .forceClosed) :
    Kept config (⟨now, s, g.state, g.state⟩ :: log) g := by
  have still : ∀ q : State, Entry.enters q ⟨now, s, g.state, g.state⟩ = false := by
    intro q
    by_cases h : g.state = q
    · simp only [Entry.enters, h, bne_self_eq_false, Bool.false_and]
    · simp only [Entry.enters, beq_false_of_ne h, Bool.and_false]
  have failures : failuresInRow (⟨now, s, g.state, g.state⟩ :: log) = failuresInRow log := by
    simp only [failuresInRow_cons, Entry.restarts, hs, hf, still, beq_false_of_ne hc,
      Bool.or_false, Bool.false_eq_true, if_false, Nat.add_zero]
  have trouble : lastTrouble (⟨now, s, g.state, g.state⟩ :: log) = lastTrouble log := by
    simp only [lastTrouble_cons, hf, beq_false_of_ne ho, Bool.or_false, Bool.false_eq_true, if_false]
  have trial : trialSuccesses (⟨now, s, g.state, g.state⟩ :: log) = trialSuccesses log := by
    simp only [trialSuccesses_cons, hs, still, Bool.false_eq_true, if_false, Nat.add_zero]
  exact ⟨k.configured, failures ▸ k.failures, k.closed, trouble ▸ k.trouble, k.opened,
    trial ▸ k.trial, k.outside⟩

/-- A call that arrives may begin a trial, which has no success yet. -/
theorem Kept.arrive {b : Breaker} (k : Kept config log b.gauge) (hs : 0 < config.successThreshold)
    (now : Span) (id : String) :
    Kept config (⟨now, .begin id, b.gauge.state, (b.arrive now).2.gauge.state⟩ :: log)
      (b.arrive now).2.gauge := by
  rw [arrive_gauge]
  by_cases h : b.state = .opened ∧ b.isDue now
  · have before : b.gauge.state = .opened := h.1
    simp only [if_pos h, before]
    exact {
      configured := k.configured
      failures := k.failures
      closed := fun h => nomatch h
      trouble := k.trouble
      opened := fun h => nomatch h
      trial := fun _ => ⟨rfl, hs⟩
      outside := fun h => (h rfl).elim }
  · simp only [if_neg h]
    exact k.quiet rfl rfl (fun h => nomatch h) (fun h => nomatch h)

/-- A success ends a row of failures, and on trial is one more of those that close the breaker. -/
theorem Kept.succeed {b : Breaker} (k : Kept config log b.gauge) (hf : 0 < config.failureThreshold)
    (now took : Span) (id : String) :
    Kept config (⟨now, .finish id true, b.gauge.state, (b.recordSuccess took).gauge.state⟩ :: log)
      (b.recordSuccess took).gauge := by
  have configured : b.config = config := k.configured
  rw [recordSuccess_gauge, configured]
  by_cases trial : b.state = .halfOpen
  · have before : b.gauge.state = .halfOpen := trial
    obtain ⟨counted, _⟩ := k.trial before
    by_cases enough : config.successThreshold ≤ b.gauge.successes + 1
    · simp only [if_pos trial, if_pos enough, before]
      exact {
        configured := k.configured
        failures := rfl
        closed := fun _ => hf
        trouble := k.trouble
        opened := fun h => nomatch h
        trial := fun h => nomatch h
        outside := fun _ => rfl }
    · simp only [if_pos trial, if_neg enough, before]
      exact {
        configured := k.configured
        failures := rfl
        closed := fun h => nomatch h
        trouble := k.trouble
        opened := fun h => nomatch h
        trial := fun _ => ⟨by rw [trialSuccesses_cons, counted]; rfl, Nat.lt_of_not_le enough⟩
        outside := fun h => (h rfl).elim }
  -- In an open breaker too a success ends the row: it is a late one, and nothing else changes.
  · simp only [if_neg trial]
    exact {
      configured := k.configured
      failures := rfl
      closed := fun _ => hf
      trouble := k.trouble
      opened := k.opened
      trial := fun h => absurd h trial
      outside := k.outside }

/-- A failure is one more in the row, and ends a trial. -/
theorem Kept.fail {b : Breaker} (k : Kept config log b.gauge) (now took : Span) (id : String) :
    Kept config (⟨now, .finish id false, b.gauge.state, (b.recordFailure now took).gauge.state⟩ :: log)
      (b.recordFailure now took).gauge := by
  have configured : b.config = config := k.configured
  rw [recordFailure_gauge, configured]
  by_cases few : b.state = .closed ∧ b.gauge.failures + 1 < config.failureThreshold
  · have before : b.gauge.state = .closed := few.1
    simp only [if_pos few, before]
    exact {
      configured := k.configured
      failures := by rw [failuresInRow_cons, k.failures]; rfl
      closed := fun _ => few.2
      trouble := rfl
      opened := fun h => nomatch h
      trial := fun h => nomatch h
      outside := fun _ => rfl }
  · simp only [if_neg few]
    -- Opening is not an entering that begins the row anew, so this failure is in it.
    have row : failuresInRow (⟨now, .finish id false, b.gauge.state, .opened⟩ :: log) =
        failuresInRow log + 1 := by
      rw [failuresInRow_cons, Entry.restarts, Entry.enters_of_ne (by decide : State.opened ≠ .closed)]
      rfl
    exact {
      configured := k.configured
      failures := by rw [row, k.failures]
      closed := fun h => nomatch h
      trouble := rfl
      opened := fun _ h => nomatch h
      trial := fun h => nomatch h
      outside := fun _ => rfl }

/-- A breaker forced open is as one that has just failed, but for the failures in a row. -/
theorem Kept.forceOpen {b : Breaker} (k : Kept config log b.gauge) (now : Span) :
    Kept config (⟨now, .forceOpen, b.gauge.state, .opened⟩ :: log) (b.forceOpen now).gauge := by
  have row : failuresInRow (⟨now, .forceOpen, b.gauge.state, .opened⟩ :: log) =
      failuresInRow log := by
    rw [failuresInRow_cons, Entry.restarts, Entry.enters_of_ne (by decide : State.opened ≠ .closed)]
    rfl
  rw [forceOpen_gauge]
  exact {
    configured := k.configured
    failures := row ▸ k.failures
    closed := fun h => nomatch h
    trouble := rfl
    opened := fun _ h => nomatch h
    trial := fun h => nomatch h
    outside := fun _ => rfl }

/-- Every count but the time of the last trouble begins again when the breaker is forced closed. -/
theorem Kept.forceClosed {b : Breaker} (k : Kept config log b.gauge)
    (hf : 0 < config.failureThreshold) (now : Span) :
    Kept config (⟨now, .forceClosed, b.gauge.state, .closed⟩ :: log) b.forceClosed.gauge := by
  have row : failuresInRow (⟨now, .forceClosed, b.gauge.state, .closed⟩ :: log) = 0 := by
    simp only [failuresInRow_cons, Entry.restarts, BEq.rfl, Bool.or_true, if_true]
  rw [forceClosed_gauge]
  exact {
    configured := k.configured
    failures := row.symm
    closed := fun _ => hf
    trouble := k.trouble
    opened := fun h => nomatch h
    trial := fun h => nomatch h
    outside := fun _ => rfl }

/-- Whatever the history, the gauge is what it says. -/
theorem History.kept (h : History name config log c) (hf : 0 < config.failureThreshold)
    (hs : 0 < config.successThreshold) : Kept config log c.breaker.gauge := by
  induction h with
  | new =>
    exact {
      configured := rfl
      failures := rfl
      closed := fun _ => hf
      trouble := rfl
      opened := fun h => nomatch h
      trial := fun h => nomatch h
      outside := fun _ => rfl }
  | @next log c c' now s past later step ih =>
    obtain ⟨took, hb⟩ := next?_breaker step
    rw [hb]
    cases s with
    | begin id => exact ih.arrive hs now id
    | finish id succeeded =>
      cases succeeded with
      | true => exact ih.succeed hf now took id
      | false => exact ih.fail now took id
    | abandon id => exact ih.quiet rfl rfl (fun h => nomatch h) (fun h => nomatch h)
    | forceOpen => exact ih.forceOpen now
    | forceClosed => exact ih.forceClosed hf now

/-! ## The contract -/

/-- A call that arrives is let through and runs from now on. -/
def Runs (c : Calls) (now : Span) (id : String) (c' : Calls) : Prop :=
  (c.begin now id).1 = true ∧ c'.running.get? id = some now ∧ c'.started = c.started + 1

/-- A call that arrives does not run, and nothing changes but that it is counted. -/
def Rejects (c : Calls) (now : Span) (id : String) (c' : Calls) : Prop :=
  (c.begin now id).1 = false ∧ c' = { c with breaker := { c.breaker with metrics :=
    { c.breaker.metrics with rejectedCalls := c.breaker.metrics.rejectedCalls + 1 } } }

/-- What one more step may do to a breaker with a history. -/
structure Contract (config : Config) (log : List Entry) (c : Calls) (now : Span) (s : Step)
    (c' : Calls) : Prop where
  /-- Every call runs while the breaker is closed or on trial, and its arrival changes nothing. -/
  runs : c.breaker.state ≠ .opened → ∀ id, s = .begin id →
    Runs c now id c' ∧ c'.breaker = c.breaker
  /-- A closed breaker opens when it is forced to, and with the failure that completes the row. -/
  closed : c.breaker.state = .closed → c'.breaker.state =
    if s = .forceOpen ∨ s.fails ∧ failuresInRow log + 1 = config.failureThreshold then .opened
    else .closed
  /-- An open breaker rejects the calls that come too soon after the last trouble. The first call
  that does not begins a trial, and nothing else but force ends the state. -/
  opened : c.breaker.state = .opened → ∃ t, lastTrouble log = some t ∧
    (∀ id, s = .begin id → now < t + config.timeout → Rejects c now id c') ∧
    (∀ id, s = .begin id → t + config.timeout ≤ now → Runs c now id c') ∧
    c'.breaker.state =
      if s = .forceClosed then .closed
      else if s.arrives ∧ t + config.timeout ≤ now then .halfOpen
      else .opened
  /-- A trial ends with the first failure, with the success that completes the row, or by force. -/
  onTrial : c.breaker.state = .halfOpen → c'.breaker.state =
    if s = .forceOpen ∨ s.fails then .opened
    else if s = .forceClosed ∨ s.succeeds ∧ trialSuccesses log + 1 = config.successThreshold then
      .closed
    else .halfOpen

/-- While the time runs forward, an open breaker is due when its timeout after the last trouble is over. -/
theorem isDue_iff {b : Breaker} {t now : Span} (ht : b.lastFailure = some t) (later : t ≤ now) :
    b.isDue now = true ↔ t + b.config.timeout ≤ now := by
  unfold isDue
  rw [ht]
  have later : t.nanoseconds ≤ now.nanoseconds := later
  show decide (_ ≤ _) = true ↔ t.nanoseconds + b.config.timeout.nanoseconds ≤ now.nanoseconds
  rw [decide_eq_true_iff]
  omega

/-- A breaker that is not open lets all through. -/
theorem arrive_of_ne_opened {b : Breaker} (h : b.state ≠ .opened) (now : Span) :
    b.arrive now = (true, b) := by
  unfold arrive
  split
  · rfl
  · rfl
  · next ho => exact absurd ho h

/-- A call that is let through runs. -/
theorem runs_of_allowed {now : Span} (id : String) (h : (c.breaker.arrive now).1 = true) :
    Runs c now id (c.begin now id).2 := by
  obtain ⟨allowed, _, running, started⟩ := begin_of_allowed id h
  exact ⟨allowed, running, started⟩

/-- A call at a breaker that is not open runs and changes nothing of the breaker. -/
theorem runs_of_ne_opened (h : c.breaker.state ≠ .opened) (now : Span) (id : String) :
    Runs c now id (c.begin now id).2 ∧ (c.begin now id).2.breaker = c.breaker := by
  have arrive := arrive_of_ne_opened h now
  refine ⟨runs_of_allowed id (by rw [arrive]), ?_⟩
  rw [begin_breaker, arrive]

/-- What an open breaker does with a call depends on when it comes. -/
theorem begin_of_opened {t now : Span} (ho : c.breaker.state = .opened)
    (ht : c.breaker.lastFailure = some t) (later : t ≤ now) (id : String) :
    (now < t + c.breaker.config.timeout → Rejects c now id (c.begin now id).2) ∧
      (t + c.breaker.config.timeout ≤ now → Runs c now id (c.begin now id).2) := by
  have due := isDue_iff ht later
  constructor
  · intro early
    have notDue : c.breaker.isDue now = false := by
      cases hd : c.breaker.isDue now with
      | true => exact absurd (due.1 hd) (Nat.not_le.2 early)
      | false => rfl
    have arrive : c.breaker.arrive now = (false, { c.breaker with metrics :=
        { c.breaker.metrics with rejectedCalls := c.breaker.metrics.rejectedCalls + 1 } }) := by
      simp only [Breaker.arrive, ho, notDue, Bool.false_eq_true, if_false]
    rw [begin_of_rejected id (by rw [arrive]), arrive]
    exact ⟨by rw [begin_of_rejected id (by rw [arrive])], rfl⟩
  · intro late
    have arrive : c.breaker.arrive now = (true, c.breaker.transition .halfOpen) := by
      simp only [Breaker.arrive, ho, due.2 late, if_true]
    exact runs_of_allowed id (by rw [arrive])

/-- A closed breaker has not had enough failures, so the next one completes the row or does not. -/
theorem Kept.leaves_closed {b : Breaker} (k : Kept config log b.gauge) (hc : b.state = .closed)
    (now took : Span) (s : Step) :
    (b.apply now (s.event took)).state =
      if s = .forceOpen ∨ s.fails ∧ failuresInRow log + 1 = config.failureThreshold then .opened
      else .closed := by
  have configured : b.config = config := k.configured
  have few := k.closed hc
  rw [k.failures] at few
  show (b.apply now (s.event took)).gauge.state = _
  cases s with
  | begin id =>
    show (b.arrive now).2.gauge.state = .closed
    rw [arrive_gauge, if_neg (fun h => by rw [hc] at h; exact nomatch h.1)]
    exact hc
  | finish id succeeded =>
    cases succeeded with
    | true =>
      show (b.recordSuccess took).gauge.state = .closed
      rw [recordSuccess_gauge, if_neg (by rw [hc]; decide)]
      exact hc
    | false =>
      show (b.recordFailure now took).gauge.state = _
      rw [recordFailure_gauge, configured, k.failures]
      simp only [hc, reduceCtorEq, Step.fails, Bool.not_false, true_and, false_or]
      -- With `few`, to reach the threshold and to complete the row are the same.
      by_cases last : failuresInRow log + 1 = config.failureThreshold
      · rw [if_pos last, if_neg (by omega)]
      · rw [if_neg last, if_pos (by omega)]
  | abandon id => exact hc
  | forceOpen => exact (if_pos (.inl rfl)).symm
  | forceClosed => rfl

/-- An open breaker waits for a call that is due, or for force. -/
theorem leaves_opened {b : Breaker} {t now : Span} (ho : b.state = .opened)
    (ht : b.lastFailure = some t) (later : t ≤ now) (took : Span) (s : Step) :
    (b.apply now (s.event took)).state =
      if s = .forceClosed then .closed
      else if s.arrives ∧ t + b.config.timeout ≤ now then .halfOpen
      else .opened := by
  have due := isDue_iff ht later
  show (b.apply now (s.event took)).gauge.state = _
  cases s with
  | begin id =>
    show (b.arrive now).2.gauge.state = _
    rw [arrive_gauge]
    simp only [ho, due, reduceCtorEq, Step.arrives, true_and, if_false]
    by_cases late : t + b.config.timeout ≤ now
    · rw [if_pos late, if_pos late]
    · rw [if_neg late, if_neg late]
      exact ho
  | finish id succeeded =>
    cases succeeded with
    | true =>
      show (b.recordSuccess took).gauge.state = .opened
      rw [recordSuccess_gauge, if_neg (by rw [ho]; decide)]
      exact ho
    | false =>
      show (b.recordFailure now took).gauge.state = .opened
      rw [recordFailure_gauge]
      exact if_neg (fun h => by rw [ho] at h; exact nomatch h.1)
  | abandon id => exact ho
  | forceOpen => rfl
  | forceClosed => rfl

/-- On trial there have not been enough successes, so the next one completes the row or does not. -/
theorem Kept.leaves_trial {b : Breaker} (k : Kept config log b.gauge) (hh : b.state = .halfOpen)
    (now took : Span) (s : Step) :
    (b.apply now (s.event took)).state =
      if s = .forceOpen ∨ s.fails then .opened
      else if s = .forceClosed ∨ s.succeeds ∧ trialSuccesses log + 1 = config.successThreshold then
        .closed
      else .halfOpen := by
  have configured : b.config = config := k.configured
  obtain ⟨counted, few⟩ := k.trial hh
  rw [counted] at few
  show (b.apply now (s.event took)).gauge.state = _
  cases s with
  | begin id =>
    show (b.arrive now).2.gauge.state = .halfOpen
    rw [arrive_gauge, if_neg (fun h => by rw [hh] at h; exact nomatch h.1)]
    exact hh
  | finish id succeeded =>
    cases succeeded with
    | true =>
      show (b.recordSuccess took).gauge.state = _
      rw [recordSuccess_gauge, if_pos hh, configured, counted]
      simp only [reduceCtorEq, Step.fails, Step.succeeds, Bool.not_true, Bool.false_eq_true,
        true_and, false_or, if_false]
      -- `few` again, as for a closed breaker.
      by_cases last : trialSuccesses log + 1 = config.successThreshold
      · rw [if_pos last, if_pos (by omega)]
      · rw [if_neg last, if_neg (by omega)]
        exact hh
    | false =>
      show (b.recordFailure now took).gauge.state = .opened
      rw [recordFailure_gauge]
      exact if_neg (fun h => by rw [hh] at h; exact nomatch h.1)
  | abandon id => exact hh
  | forceOpen => rfl
  | forceClosed => rfl

/-- A step from a gauge that is what the history says obeys the contract. -/
theorem Kept.contract {now : Span} {s : Step} (k : Kept config log c.breaker.gauge)
    (past : ∀ t, lastTrouble log = some t → t ≤ now) (step : c.next? now s = some c') :
    Contract config log c now s c' := by
  obtain ⟨took, hb⟩ := next?_breaker step
  have configured : c.breaker.config = config := k.configured
  have begins : ∀ id, s = .begin id → c' = (c.begin now id).2 := by
    rintro id rfl
    exact (Option.some.inj step).symm
  exact {
    runs := by
      intro hs id hid
      rw [begins id hid]
      exact runs_of_ne_opened hs now id
    closed := by
      intro hs
      rw [hb]
      exact k.leaves_closed hs now took s
    opened := by
      intro hs
      -- An open breaker has a time of its last trouble, and it is no later than now.
      obtain ⟨t, ht⟩ := Option.ne_none_iff_exists'.1 (k.opened hs)
      have ht : c.breaker.lastFailure = some t := ht
      have trouble : lastTrouble log = some t := k.trouble.symm.trans ht
      have later := past t trouble
      refine ⟨t, trouble, ?_, ?_, ?_⟩
      · intro id hid early
        rw [begins id hid]
        exact (begin_of_opened hs ht later id).1 (configured ▸ early)
      · intro id hid late
        rw [begins id hid]
        exact (begin_of_opened hs ht later id).2 (configured ▸ late)
      · rw [hb, leaves_opened hs ht later took s, configured]
    onTrial := by
      intro hs
      rw [hb]
      exact k.leaves_trial hs now took s }

/-- Whatever calls overlap and whenever they end, the failures in a row are those that the history
tells of, the count of them stays in its 32 bits while there are fewer failures in all, and the next
step obeys the contract. -/
theorem moves_by_contract (h : History name config log c) (hf : 0 < config.failureThreshold)
    (hs : 0 < config.successThreshold) :
    c.breaker.metrics.consecutiveFailures = failuresInRow log ∧
      (log.countP (·.step.fails) < Bits.count32 →
        c.breaker.metrics.consecutiveFailures < Bits.count32) ∧
      ∀ (now : Span) (s : Step) (c' : Calls), clock log ≤ now → c.next? now s = some c' →
        Contract config log c now s c' := by
  have k := h.kept hf hs
  have failures : c.breaker.metrics.consecutiveFailures = failuresInRow log := k.failures
  refine ⟨failures, ?_, ?_⟩
  · intro few
    rw [failures]
    exact Nat.lt_of_le_of_lt (countSince_le _ _ log) few
  · intro now s c' later step
    exact k.contract (fun t ht => Nat.le_trans (h.lastTrouble_le ht) later) step

/-- Two calls that overlap fail one after the other, and another comes at once. -/
def overlapping : List (Span × Step) :=
  [(⟨0⟩, .begin "a"), (⟨1⟩, .begin "b"), (⟨2⟩, .finish "a" false), (⟨3⟩, .finish "b" false),
    (⟨4⟩, .begin "c")]

/-- The breaker has opened with the second failure, and the first call after its timeout is a step
that the contract speaks of. -/
theorem moves_by_contract_overlapping :
    ∃ log c, extend? [] (.new "calls" ⟨2, 2, ⟨10⟩⟩) overlapping = some (log, c) ∧
      failuresInRow log = 2 ∧ c.breaker.metrics.consecutiveFailures = failuresInRow log ∧
      Contract ⟨2, 2, ⟨10⟩⟩ log c ⟨13⟩ (.begin "d") (c.begin ⟨13⟩ "d").2 := by
  have h : History "calls" ⟨2, 2, ⟨10⟩⟩ _ _ := History.extend .new overlapping rfl
  obtain ⟨failures, _, contract⟩ := moves_by_contract h (by decide) (by decide)
  exact ⟨_, _, rfl, rfl, failures, contract ⟨13⟩ (.begin "d") _ (by decide) rfl⟩

end Calls

end WorkDispatch.Breaker
