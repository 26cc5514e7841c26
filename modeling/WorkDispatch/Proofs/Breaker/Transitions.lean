import WorkDispatch.Proofs.Breaker.Counts

/-!
# What is counted as a transition

A breaker is moved by one operation only, which counts a transition without looking where the breaker
was. `apply_leads` says once how an event comes to it. A call that arrives, succeeds or fails moves the
breaker under a condition on its state, and then to another one, whatever the thresholds are, zero
included. Forcing moves it under no condition, so that what is forced again is counted again.

`changes_counted_iff` puts this together for every history. The count is the number of steps that
changed the state and of those that forced the state the breaker was in, and it is the number of
changes if and only if nothing was forced again. `forced_again_counted` is a history in which
something was.
-/

set_option autoImplicit false

namespace WorkDispatch.Breaker

/-! ## What an event does -/

namespace Event

/-- The state that an event forces, if it forces one. -/
def forced? : Event → Option State
  | forceOpen => some .opened
  | forceClosed => some .closed
  | _ => none

/-- How long the call took whose outcome an event tells. -/
def took : Event → Span
  | succeed took => took
  | fail took => took
  | _ => .zero

end Event

/-- A breaker that has counted what an event tells, and was not moved. -/
structure Notes (b : Breaker) (e : Event) (noted : Breaker) : Prop where
  state : noted.state = b.state
  transitions : noted.metrics.transitions = b.metrics.transitions
  totalDuration : noted.metrics.totalDuration = b.metrics.totalDuration + e.took

/-- What an event can lead to: it is noted, and then the breaker stays where it is, moves to another
state, or moves where it is forced to. -/
inductive Leads (b : Breaker) (e : Event) : Breaker → Prop
  | stays {noted : Breaker} (unforced : e.forced? = none) (notes : Notes b e noted) : Leads b e noted
  | moves {noted : Breaker} {s : State} (unforced : e.forced? = none) (notes : Notes b e noted)
      (other : b.state ≠ s) : Leads b e (noted.transition s)
  | forced {noted : Breaker} {s : State} (forced : e.forced? = some s) (notes : Notes b e noted) :
      Leads b e (noted.transition s)

/-- An arrival leads where the states say. -/
theorem arrive_leads (b : Breaker) (now : Span) : Leads b .arrive (b.arrive now).2 := by
  unfold arrive
  split
  · exact .stays rfl ⟨rfl, rfl, rfl⟩
  · exact .stays rfl ⟨rfl, rfl, rfl⟩
  · next opened =>
    split
    · exact .moves rfl ⟨rfl, rfl, rfl⟩ (by rw [opened]; decide)
    · exact .stays rfl ⟨rfl, rfl, rfl⟩

/-- A success moves the breaker on trial only. -/
theorem recordSuccess_leads (b : Breaker) (took : Span) :
    Leads b (.succeed took) (b.recordSuccess took) := by
  unfold recordSuccess
  by_cases trial : b.metrics.state = .halfOpen
  · simp only [trial, true_and, if_true]
    have trial : b.state = .halfOpen := trial
    split
    · exact .moves rfl ⟨trial.symm, rfl, rfl⟩ (by rw [trial]; decide)
    · exact .stays rfl ⟨trial.symm, rfl, rfl⟩
  · simp only [trial, false_and, if_false]
    exact .stays rfl ⟨rfl, rfl, rfl⟩

/-- A failure opens the breaker from the two other states only. -/
theorem recordFailure_leads (b : Breaker) (now took : Span) :
    Leads b (.fail took) (b.recordFailure now took) := by
  unfold recordFailure
  simp only
  split
  · next closed =>
    have closed : b.state = .closed := closed
    split
    · exact .moves rfl ⟨rfl, rfl, rfl⟩ (by rw [closed]; decide)
    · exact .stays rfl ⟨rfl, rfl, rfl⟩
  · next trial =>
    have trial : b.state = .halfOpen := trial
    exact .moves rfl ⟨rfl, rfl, rfl⟩ (by rw [trial]; decide)
  · exact .stays rfl ⟨rfl, rfl, rfl⟩

/-- Every event leads where the states say. -/
theorem apply_leads (b : Breaker) (now : Span) (e : Event) : Leads b e (b.apply now e) := by
  cases e with
  | arrive => exact arrive_leads b now
  | succeed took => exact recordSuccess_leads b took
  | fail took => exact recordFailure_leads b now took
  | abandon => exact .stays rfl ⟨rfl, rfl, rfl⟩
  | forceOpen => exact .forced rfl ⟨rfl, rfl, rfl⟩
  | forceClosed => exact .forced rfl ⟨rfl, rfl, rfl⟩

section

variable {b b' : Breaker} {e : Event}

/-- Only recorded calls take time. -/
theorem Leads.totalDuration (h : Leads b e b') :
    b'.metrics.totalDuration = b.metrics.totalDuration + e.took := by
  cases h with
  | stays _ notes => exact notes.totalDuration
  | moves _ notes _ => exact notes.totalDuration
  | forced _ notes => exact notes.totalDuration

/-- A transition is counted for another state, and for the state the breaker was in if it is forced. -/
theorem Leads.transitions (h : Leads b e b') :
    b'.metrics.transitions = b.metrics.transitions +
      (if b.state != b'.state then 1 else 0) + if e.forced? == some b.state then 1 else 0 := by
  cases h with
  | stays unforced notes =>
    rw [notes.transitions, notes.state, unforced, bne_self_eq_false]
    rfl
  | @moves noted s unforced notes other =>
    show noted.metrics.transitions + 1 = _ + (if b.state != s then 1 else 0) + _
    rw [notes.transitions, unforced, if_pos (bne_iff_ne.mpr other)]
    rfl
  | @forced noted s forced notes =>
    show noted.metrics.transitions + 1 = _ + (if b.state != s then 1 else 0) + _
    rw [notes.transitions, forced]
    by_cases same : b.state = s
    · rw [same, bne_self_eq_false, BEq.rfl]
      rfl
    · rw [if_pos (bne_iff_ne.mpr same), if_neg (fun h => same (Option.some.inj (beq_iff_eq.mp h)).symm)]

end

namespace Calls

/-- The state that a step forces, if it forces one. -/
def Step.forced? : Step → Option State
  | forceOpen => some .opened
  | forceClosed => some .closed
  | _ => none

/-- Whether a step is forced does not depend on how long it took. -/
theorem Step.forced?_event (s : Step) (took : Span) : (s.event took).forced? = s.forced? := by
  cases s with
  | finish id succeeded =>
    cases succeeded with
    | true => rfl
    | false => rfl
  | _ => rfl

/-- The breaker is in another state after the step. -/
def Entry.changes (e : Entry) : Bool := e.before != e.after

/-- The step forced the state that the breaker was in. -/
def Entry.repeats (e : Entry) : Bool := e.step.forced? == some e.before

variable {name : String} {config : Config} {log : List Entry} {c c' : Calls} {now : Span} {s : Step}

/-- A step counts what it changes and what it repeats. -/
theorem next?_transitions (step : c.next? now s = some c') :
    c'.breaker.metrics.transitions = c.breaker.metrics.transitions +
      (if Entry.changes ⟨now, s, c.breaker.state, c'.breaker.state⟩ then 1 else 0) +
      if Entry.repeats ⟨now, s, c.breaker.state, c'.breaker.state⟩ then 1 else 0 := by
  obtain ⟨took, applied⟩ := next?_breaker step
  have counted := (apply_leads c.breaker now (s.event took)).transitions
  rw [← applied, s.forced?_event] at counted
  exact counted

/-! ## Every history -/

/-- Every change is counted once, and so is every state that is forced again. -/
theorem History.transitions_eq (h : History name config log c) :
    c.breaker.metrics.transitions = log.countP Entry.changes + log.countP Entry.repeats := by
  induction h with
  | new => rfl
  | next past later step ih =>
    rw [next?_transitions step, List.countP_cons, List.countP_cons, ih]
    omega

/-- Whatever calls overlap and however the breaker is forced, the transitions that it has counted are
the steps that changed its state and those that forced the state it was in. They are the changes alone
if and only if no state was forced again. -/
theorem changes_counted_iff (h : History name config log c) :
    c.breaker.metrics.transitions = log.countP Entry.changes + log.countP Entry.repeats ∧
      (c.breaker.metrics.transitions = log.countP Entry.changes ↔ ∀ e ∈ log, e.repeats = false) := by
  have all := h.transitions_eq
  have none_repeats : log.countP Entry.repeats = 0 ↔ ∀ e ∈ log, e.repeats = false := by
    simp only [List.countP_eq_zero, Bool.not_eq_true]
  refine ⟨all, ?_⟩
  rw [← none_repeats]
  omega

/-- In the history of `troubled` nothing is forced again: the breaker opens with the second failure, is
forced closed and open, and begins a trial. -/
theorem changes_counted_iff_troubled :
    ∃ log c, extend? [] (.new "calls" ⟨2, 2, ⟨10⟩⟩) troubled = some (log, c) ∧
      log.countP Entry.changes = 4 ∧ c.breaker.metrics.transitions = log.countP Entry.changes := by
  have h : History "calls" ⟨2, 2, ⟨10⟩⟩ _ _ := History.extend .new troubled rfl
  obtain ⟨-, alone⟩ := changes_counted_iff h
  exact ⟨_, _, rfl, by decide, alone.mpr (by decide)⟩

/-- A closed breaker is forced closed, forced open, and forced open again: it has changed its state once
and counts three transitions. -/
theorem forced_again_counted :
    ∃ log c, History "calls" ⟨1, 1, ⟨10⟩⟩ log c ∧ log.countP Entry.changes = 1 ∧
      c.breaker.metrics.transitions = 3 := by
  have h : History "calls" ⟨1, 1, ⟨10⟩⟩ _ _ :=
    History.extend .new [(⟨0⟩, .forceClosed), (⟨1⟩, .forceOpen), (⟨2⟩, .forceOpen)] rfl
  exact ⟨_, _, h, by decide, rfl⟩

end Calls

end WorkDispatch.Breaker
