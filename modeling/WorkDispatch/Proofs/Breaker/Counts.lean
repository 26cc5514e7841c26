import WorkDispatch.Breaker.Guard
import WorkDispatch.Proofs.Breaker.Contract

/-!
# What a breaker has counted

Beside the gauge that decides over calls, a breaker keeps a `Tally` that nothing decides on: its name,
how many calls it recorded, and how many it turned away. No operation touches the one for the sake of
the other, so there is again one lemma for what each does to the tally, and one for what a step does to
it and to the calls (`next?_tally`, `next?_started`, `next?_unrecorded`). A call that has begun is
recorded once, or still runs, or was given up: what is counted on the one side is what is counted on
the other.

`steady_of_history` puts the two together: what holds of a breaker in each of its states, and how its
counts go with the calls that were made, after any history.
-/

set_option autoImplicit false

namespace WorkDispatch.Breaker

/-! ## What is only counted -/

/-- What of a breaker decides nothing: its name, and what is only counted. -/
structure Tally where
  name : String
  total : Nat
  good : Nat
  bad : Nat
  rejected : Nat

def tally (b : Breaker) : Tally where
  name := b.name
  total := b.metrics.totalCalls
  good := b.metrics.successCount
  bad := b.metrics.failureCount
  rejected := b.metrics.rejectedCalls

/-- A call that arrives is turned away if the breaker is open and stays so. -/
theorem arrive_allowed (b : Breaker) (now : Span) :
    (b.arrive now).1 = !(b.state == .opened && (b.arrive now).2.state == .opened) := by
  unfold arrive
  cases hs : b.state with
  | closed => rfl
  | halfOpen => rfl
  | opened =>
    cases hd : b.isDue now with
    | true => rfl
    | false =>
      show false = !(State.opened == .opened && b.state == .opened)
      rw [hs]
      rfl

/-- An arrival is counted only if it is rejected. -/
theorem arrive_tally (b : Breaker) (now : Span) :
    (b.arrive now).2.tally =
      { b.tally with rejected := b.tally.rejected + if (b.arrive now).1 then 0 else 1 } := by
  unfold arrive
  cases hs : b.state with
  | closed => rfl
  | halfOpen => rfl
  | opened =>
    cases hd : b.isDue now with
    | true => rfl
    | false => rfl

/-- A success is counted once, as a good call. -/
theorem recordSuccess_tally (b : Breaker) (took : Span) :
    (b.recordSuccess took).tally =
      { b.tally with total := b.tally.total + 1, good := b.tally.good + 1 } := by
  obtain ⟨name, config, last, ⟨total, good, bad, rejected, transitions, fs, ss, spent, state⟩⟩ := b
  cases state with
  | closed => rfl
  | halfOpen =>
    show tally (if State.halfOpen = .halfOpen ∧ config.successThreshold ≤ ss + 1 then _ else _) = _
    split
    · rfl
    · rfl
  | opened => rfl

/-- A failure is counted once, as a bad one. -/
theorem recordFailure_tally (b : Breaker) (now took : Span) :
    (b.recordFailure now took).tally =
      { b.tally with total := b.tally.total + 1, bad := b.tally.bad + 1 } := by
  obtain ⟨name, config, last, ⟨total, good, bad, rejected, transitions, fs, ss, spent, state⟩⟩ := b
  cases state with
  | closed =>
    show tally (if config.failureThreshold ≤ fs + 1 then _ else _) = _
    split
    · rfl
    · rfl
  | halfOpen => rfl
  | opened => rfl

section

variable {α : Type}

/-- Every call that ends is one more, whichever way it ends. -/
theorem record_tally (b : Breaker) (now took : Span) (r : Except Failure α) :
    (record b now took r).tally =
      { b.tally with
        total := b.tally.total + 1
        good := b.tally.good + if r.isOk then 1 else 0
        bad := b.tally.bad + if r.isOk then 0 else 1 } := by
  cases r with
  | ok a => exact recordSuccess_tally b took
  | error e => exact recordFailure_tally b now took

/-- Recording changes no setting. -/
theorem record_config (b : Breaker) (now took : Span) (r : Except Failure α) :
    (record b now took r).config = b.config := by
  cases r with
  | ok a =>
    show (b.recordSuccess took).gauge.config = b.gauge.config
    rw [recordSuccess_gauge]
    split
    · split
      · rfl
      · rfl
    · rfl
  | error e =>
    show (b.recordFailure now took).gauge.config = b.gauge.config
    rw [recordFailure_gauge]

end

namespace Calls

/-- The outcome of a call is recorded. -/
def Step.records (s : Step) : Bool := s.succeeds || s.fails

/-- A call arrives and is turned away. -/
def Entry.rejects (e : Entry) : Bool := e.step.arrives && (e.before == .opened && e.after == .opened)

/-- A call arrives and begins. -/
def Entry.starts (e : Entry) : Bool := e.step.arrives && !e.rejects

/-- How many calls began and were not recorded: those that run and those that were given up. -/
def unrecorded (c : Calls) : Nat := c.running.size + c.abandoned

variable {name : String} {config : Config} {log : List Entry} {c c' : Calls} {now : Span} {s : Step}

/-! ## One step -/

/-- The entry of a call that arrives tells whether it began. -/
theorem rejects_begin (c : Calls) (now : Span) (id : String) :
    Entry.rejects ⟨now, .begin id, c.breaker.state, (c.begin now id).2.breaker.state⟩ =
      !(c.breaker.arrive now).1 := by
  rw [arrive_allowed, Bool.not_not, begin_breaker]
  rfl

/-- A call starts if the breaker lets it through. -/
theorem starts_begin (c : Calls) (now : Span) (id : String) :
    Entry.starts ⟨now, .begin id, c.breaker.state, (c.begin now id).2.breaker.state⟩ =
      (c.breaker.arrive now).1 := by
  rw [Entry.starts, rejects_begin, Bool.not_not]
  rfl

/-- A call that is given up is counted elsewhere, and its name is free. -/
theorem unrecorded_abandon (c : Calls) (id : String) :
    (c.abandon id).unrecorded = c.unrecorded ∧ (c.abandon id).running.get? id = none := by
  unfold abandon
  cases running : c.running.get? id with
  | none => exact ⟨rfl, running⟩
  | some start =>
    have fewer : (c.running.erase id).size + 1 = c.running.size := Table.size_erase running
    constructor
    · show (c.running.erase id).size + (c.abandoned + 1) = c.running.size + c.abandoned
      omega
    · simp only [Table.get?_erase, if_true]

/-- A call that starts is yet to be recorded. -/
theorem unrecorded_begin (c : Calls) (now : Span) (id : String) :
    (c.begin now id).2.unrecorded = c.unrecorded + if (c.breaker.arrive now).1 then 1 else 0 := by
  cases h : (c.breaker.arrive now).1 with
  | false =>
    rw [begin_of_rejected id h]
    rfl
  | true =>
    obtain ⟨same, free⟩ := unrecorded_abandon { c with breaker := (c.breaker.arrive now).2 } id
    have more := Table.size_put now free
    have before : unrecorded { c with breaker := (c.breaker.arrive now).2 } = c.unrecorded := rfl
    rw [before] at same
    unfold begin
    simp only [h, if_true, ← same]
    simp only [unrecorded, more]
    omega

/-- A step tells the breaker of at most one outcome or of one call that it turned away. -/
theorem next?_tally (step : c.next? now s = some c') :
    c'.breaker.tally =
      { name := c.breaker.tally.name
        total := c.breaker.tally.total + if s.records then 1 else 0
        good := c.breaker.tally.good + if s.succeeds then 1 else 0
        bad := c.breaker.tally.bad + if s.fails then 1 else 0
        rejected := c.breaker.tally.rejected +
          if Entry.rejects ⟨now, s, c.breaker.state, c'.breaker.state⟩ then 1 else 0 } := by
  cases s with
  | begin id =>
    cases step
    rw [rejects_begin, begin_breaker, arrive_tally]
    cases (c.breaker.arrive now).1 with
    | true => rfl
    | false => rfl
  | finish id succeeded =>
    obtain ⟨start, -, rfl⟩ := Option.map_eq_some_iff.mp step
    cases succeeded with
    | true => exact recordSuccess_tally _ _
    | false => exact recordFailure_tally _ _ _
  | abandon id =>
    cases step
    rw [abandon_breaker]
    rfl
  | forceOpen =>
    cases step
    rfl
  | forceClosed =>
    cases step
    rfl

/-- A step starts one call at most. -/
theorem next?_started (step : c.next? now s = some c') :
    c'.started = c.started +
      if Entry.starts ⟨now, s, c.breaker.state, c'.breaker.state⟩ then 1 else 0 := by
  cases s with
  | begin id =>
    cases step
    rw [starts_begin]
    cases h : (c.breaker.arrive now).1 with
    | true => exact (begin_of_allowed id h).2.2.2
    | false =>
      rw [begin_of_rejected id h]
      rfl
  | finish id succeeded =>
    obtain ⟨start, -, rfl⟩ := Option.map_eq_some_iff.mp step
    rfl
  | abandon id =>
    cases step
    exact abandon_started c id
  | forceOpen =>
    cases step
    rfl
  | forceClosed =>
    cases step
    rfl

/-- A call that begins is not recorded yet, and one that is recorded had begun. -/
theorem next?_unrecorded (step : c.next? now s = some c') :
    (c'.unrecorded + if s.records then 1 else 0) = c.unrecorded +
      if Entry.starts ⟨now, s, c.breaker.state, c'.breaker.state⟩ then 1 else 0 := by
  cases s with
  | begin id =>
    cases step
    rw [starts_begin]
    exact unrecorded_begin c now id
  | finish id succeeded =>
    obtain ⟨start, running, rfl⟩ := Option.map_eq_some_iff.mp step
    have fewer : (c.running.erase id).size + 1 = c.running.size := Table.size_erase running
    have records : (Step.finish id succeeded).records = true := Bool.or_not_self succeeded
    rw [if_pos records]
    show (c.running.erase id).size + c.abandoned + 1 = c.running.size + c.abandoned + 0
    omega
  | abandon id =>
    cases step
    exact (unrecorded_abandon c id).1
  | forceOpen =>
    cases step
    rfl
  | forceClosed =>
    cases step
    rfl

/-! ## Every history -/

/-- Counts that are those of the history. -/
structure Counted (log : List Entry) (c : Calls) : Prop where
  good : c.breaker.tally.good = log.countP (·.step.succeeds)
  bad : c.breaker.tally.bad = log.countP (·.step.fails)
  total : c.breaker.tally.total = c.breaker.tally.good + c.breaker.tally.bad
  rejected : c.breaker.tally.rejected = log.countP Entry.rejects
  started : c.started = log.countP Entry.starts
  unrecorded : c.started = c.breaker.tally.total + c.unrecorded

/-- What the log says of the counts, it says after each step. -/
theorem Counted.next (h : Counted log c) (step : c.next? now s = some c') :
    Counted (⟨now, s, c.breaker.state, c'.breaker.state⟩ :: log) c' := by
  have tally := next?_tally step
  have started := next?_started step
  have unrecorded := next?_unrecorded step
  have records : (if s.records then 1 else 0) =
      (if s.succeeds then 1 else 0) + if s.fails then 1 else 0 := by
    cases s with
    | finish id succeeded =>
      cases succeeded with
      | true => rfl
      | false => rfl
    | _ => rfl
  exact {
    good := by rw [tally, List.countP_cons, h.good]
    bad := by rw [tally, List.countP_cons, h.bad]
    total := by
      rw [tally]
      simp only [records, h.total]
      omega
    rejected := by rw [tally, List.countP_cons, h.rejected]
    started := by rw [started, List.countP_cons, h.started]
    unrecorded := by
      rw [tally, started, h.unrecorded]
      simp only
      omega }

/-- In every history the counts are those of the log. -/
theorem History.counted (h : History name config log c) : Counted log c := by
  induction h with
  | new => exact ⟨rfl, rfl, rfl, rfl, rfl, rfl⟩
  | next past later step ih => exact ih.next step

/-- A call that arrives begins or is turned away. -/
theorem countP_arrives (log : List Entry) :
    log.countP (·.step.arrives) = log.countP Entry.starts + log.countP Entry.rejects := by
  induction log with
  | nil => rfl
  | cons e log ih =>
    have one : (if e.step.arrives then 1 else 0) =
        (if e.starts then 1 else 0) + if e.rejects then 1 else 0 := by
      unfold Entry.starts Entry.rejects
      cases e.step.arrives with
      | true =>
        cases e.before == .opened && e.after == .opened with
        | true => rfl
        | false => rfl
      | false => rfl
    simp only [List.countP_cons, ih, one]
    omega

/-- What holds of a breaker in each of its states, and what its counts say of the calls. -/
structure Steady (config : Config) (log : List Entry) (c : Calls) : Prop where
  /-- A closed breaker has not had enough failures, and counts no success. -/
  closed : c.breaker.state = .closed →
    c.breaker.metrics.consecutiveFailures < config.failureThreshold ∧
      c.breaker.metrics.consecutiveSuccesses = 0
  /-- One on trial has not had enough successes. -/
  halfOpen : c.breaker.state = .halfOpen →
    c.breaker.metrics.consecutiveSuccesses < config.successThreshold
  /-- An open one counts no success and knows when the last trouble was, so it is due when the timeout
  after that is over and not for want of a time. -/
  opened : c.breaker.state = .opened →
    c.breaker.metrics.consecutiveSuccesses = 0 ∧
      ∃ t, c.breaker.lastFailure = some t ∧ ∀ now, c.breaker.isDue now =
        decide (config.timeout.nanoseconds ≤ now.nanoseconds - t.nanoseconds)
  /-- The failures in a row stay in their 32 bits while there are fewer failures in all. -/
  narrow : log.countP (·.step.fails) < Bits.count32 →
    c.breaker.metrics.consecutiveFailures < Bits.count32
  successes : c.breaker.metrics.successCount = log.countP (·.step.succeeds)
  failures : c.breaker.metrics.failureCount = log.countP (·.step.fails)
  total : c.breaker.metrics.totalCalls =
    c.breaker.metrics.successCount + c.breaker.metrics.failureCount
  began : c.started = log.countP Entry.starts
  turnedAway : c.breaker.metrics.rejectedCalls = log.countP Entry.rejects
  /-- A call that began was recorded, or runs, or was given up. -/
  started : c.started = c.breaker.metrics.totalCalls + c.running.size + c.abandoned
  /-- A call that was made began, or was turned away. -/
  made : log.countP (·.step.arrives) = c.started + c.breaker.metrics.rejectedCalls

/-- Whatever calls overlap, end or are given up, and however the breaker is forced, it is steady. -/
theorem steady_of_history (h : History name config log c) (hf : 0 < config.failureThreshold)
    (hs : 0 < config.successThreshold) : Steady config log c := by
  have k := h.kept hf hs
  have n := h.counted
  have configured : c.breaker.config = config := k.configured
  have failures : c.breaker.metrics.consecutiveFailures = failuresInRow log := k.failures
  exact {
    closed := by
      intro hc
      exact ⟨k.closed hc, k.outside (fun on => nomatch hc.symm.trans on)⟩
    halfOpen := by
      intro hh
      exact (k.trial hh).2
    opened := by
      intro ho
      obtain ⟨t, ht⟩ := Option.ne_none_iff_exists'.mp (k.opened ho)
      have ht : c.breaker.lastFailure = some t := ht
      -- Successes are counted on trial only.
      refine ⟨k.outside (fun on => nomatch ho.symm.trans on), t, ht, ?_⟩
      intro now
      simp only [isDue, ht, configured]
    narrow := by
      intro few
      rw [failures]
      exact Nat.lt_of_le_of_lt (countSince_le _ _ log) few
    successes := n.good
    failures := n.bad
    total := n.total
    began := n.started
    turnedAway := n.rejected
    started := n.unrecorded.trans (Nat.add_assoc _ _ _).symm
    made := by
      have rejected : c.breaker.metrics.rejectedCalls = log.countP Entry.rejects := n.rejected
      rw [countP_arrives, n.started, rejected] }

/-- Two calls that overlap fail, the breaker opens with the second while a third runs, and one is turned
away. The breaker is forced closed and open again, a trial begins, its call is given up, and the third
call succeeds. -/
def troubled : List (Span × Step) :=
  [(⟨0⟩, .begin "a"), (⟨1⟩, .begin "b"), (⟨1⟩, .begin "c"), (⟨2⟩, .finish "a" false),
    (⟨3⟩, .finish "b" false), (⟨4⟩, .begin "d"), (⟨5⟩, .forceClosed), (⟨6⟩, .forceOpen),
    (⟨16⟩, .begin "e"), (⟨17⟩, .abandon "e"), (⟨18⟩, .finish "c" true)]

/-- Of the four calls that began three were recorded, and the breaker is still on trial. -/
theorem steady_of_history_troubled :
    ∃ log c, extend? [] (.new "calls" ⟨2, 2, ⟨10⟩⟩) troubled = some (log, c) ∧
      c.breaker.state = .halfOpen ∧ c.breaker.metrics.consecutiveSuccesses < 2 ∧
      c.started = 4 ∧ c.started = c.breaker.metrics.totalCalls + c.running.size + c.abandoned ∧
      log.countP (·.step.arrives) = c.started + c.breaker.metrics.rejectedCalls := by
  have h : History "calls" ⟨2, 2, ⟨10⟩⟩ _ _ := History.extend .new troubled rfl
  have steady := steady_of_history h (by decide) (by decide)
  exact ⟨_, _, rfl, rfl, steady.halfOpen rfl, rfl, steady.started, steady.made⟩

end Calls

end WorkDispatch.Breaker
