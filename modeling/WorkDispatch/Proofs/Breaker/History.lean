import WorkDispatch.Breaker.Calls

/-!
# The history of a breaker

What a breaker did is told by its history: an entry for each step, with its time and the states on
either side of it. The newest entry comes first, so what happened since some moment is what stands
before it.

`History` holds of the histories that a breaker and its calls can have. A call may end in any later
state, and the breaker may be forced at any time. The counts that a breaker is described by,
`failuresInRow`, `lastTrouble` and `trialSuccesses`, are read off a history alone. That the breaker
keeps them is a theorem about its operations, and is not said here.
-/

set_option autoImplicit false

namespace WorkDispatch.Breaker.Calls

/-! ## Steps -/

/-- What can happen to a breaker and its calls. -/
inductive Step
  | begin (id : String)
  | finish (id : String) (succeeded : Bool)
  | abandon (id : String)
  | forceOpen
  | forceClosed
  deriving DecidableEq

namespace Step

/-- A success is recorded. -/
def succeeds : Step → Bool
  | finish _ succeeded => succeeded
  | _ => false

/-- A failure is recorded. -/
def fails : Step → Bool
  | finish _ succeeded => !succeeded
  | _ => false

/-- A call arrives. -/
def arrives : Step → Bool
  | begin _ => true
  | _ => false

/-- What the breaker sees of a step, with the time that a call which ends has taken. -/
def event (took : Span) : Step → Event
  | begin _ => .arrive
  | finish _ true => .succeed took
  | finish _ false => .fail took
  | abandon _ => .abandon
  | forceOpen => .forceOpen
  | forceClosed => .forceClosed

end Step

/-- The calls after a step; there is no result when the call that ends is not running. -/
def next? (c : Calls) (now : Span) : Step → Option Calls
  | .begin id => some (c.begin now id).2
  | .finish id succeeded => c.finish? now id succeeded
  | .abandon id => some (c.abandon id)
  | .forceOpen => some (c.force (·.forceOpen now))
  | .forceClosed => some (c.force (·.forceClosed))

/-- The breaker does not hear of an abandoned call. -/
@[simp] theorem abandon_breaker (c : Calls) (id : String) : (c.abandon id).breaker = c.breaker := by
  unfold abandon
  split
  · rfl
  · rfl

/-- An abandoned call has started all the same. -/
@[simp] theorem abandon_started (c : Calls) (id : String) : (c.abandon id).started = c.started := by
  unfold abandon
  split
  · rfl
  · rfl

/-- A call that the breaker does not let through leaves everything but the breaker as it was. -/
theorem begin_of_rejected {c : Calls} {now : Span} (id : String)
    (h : (c.breaker.arrive now).1 = false) :
    c.begin now id = (false, { c with breaker := (c.breaker.arrive now).2 }) := by
  unfold begin
  simp only [h, Bool.false_eq_true, if_false]

/-- A call that the breaker lets through runs from now on. -/
theorem begin_of_allowed {c : Calls} {now : Span} (id : String)
    (h : (c.breaker.arrive now).1 = true) :
    (c.begin now id).1 = true ∧ (c.begin now id).2.breaker = (c.breaker.arrive now).2 ∧
      (c.begin now id).2.running.get? id = some now ∧ (c.begin now id).2.started = c.started + 1 := by
  unfold begin
  simp only [h, if_true, abandon_breaker, abandon_started, Table.get?_put, and_self]

/-- Where a call begins, the breaker does what it does at an arrival. -/
theorem begin_breaker (c : Calls) (now : Span) (id : String) :
    (c.begin now id).2.breaker = (c.breaker.arrive now).2 := by
  cases h : (c.breaker.arrive now).1 with
  | true => exact (begin_of_allowed id h).2.1
  | false => rw [begin_of_rejected id h]

/-- A step of the calls is one event of the breaker. -/
theorem next?_breaker {c c' : Calls} {now : Span} {s : Step} (h : c.next? now s = some c') :
    ∃ took, c'.breaker = c.breaker.apply now (s.event took) := by
  cases s with
  | begin id =>
    cases h
    exact ⟨.zero, begin_breaker c now id⟩
  | finish id succeeded =>
    simp only [next?, finish?, Option.map_eq_some_iff] at h
    obtain ⟨start, _, rfl⟩ := h
    refine ⟨⟨now.nanoseconds - start.nanoseconds⟩, ?_⟩
    cases succeeded with
    | true => rfl
    | false => rfl
  | abandon id =>
    cases h
    exact ⟨.zero, abandon_breaker c id⟩
  | forceOpen =>
    cases h
    exact ⟨.zero, rfl⟩
  | forceClosed =>
    cases h
    exact ⟨.zero, rfl⟩

/-- A call that arrives and ends at once does to the breaker what one that begins and ends does, so
histories need no step of their own for it. -/
theorem call_breaker (c : Calls) (now : Span) (id : String) (succeeded : Bool) :
    (c.call now succeeded).1 = (c.begin now id).1 ∧
      some (c.call now succeeded).2.breaker =
        if (c.begin now id).1 then ((c.begin now id).2.finish? now id succeeded).map Calls.breaker
        else some (c.begin now id).2.breaker := by
  unfold call
  cases h : (c.breaker.arrive now).1 with
  | true =>
    obtain ⟨allowed, breaker, running, _⟩ := begin_of_allowed id h
    have took : (⟨now.nanoseconds - now.nanoseconds⟩ : Span) = .zero := by rw [Nat.sub_self]; rfl
    simp only [h, allowed, if_true, finish?, running, Option.map_some, breaker, took, and_self]
  | false =>
    rw [begin_of_rejected id h]
    simp only [h, Bool.false_eq_true, if_false, and_self]

/-! ## Histories -/

/-- A step that was taken. -/
structure Entry where
  time : Span
  step : Step
  /-- The state of the breaker before it. -/
  before : State
  /-- The state of the breaker after it. -/
  after : State
  deriving DecidableEq

/-- The step changed the state to this one. -/
def Entry.enters (s : State) (e : Entry) : Bool := e.before != s && e.after == s

/-- What ends in another state does not enter this one. -/
theorem Entry.enters_of_ne {s : State} {e : Entry} (h : e.after ≠ s) : e.enters s = false := by
  rw [enters, beq_false_of_ne h, Bool.and_false]

/-- When the last step was taken. -/
def clock (log : List Entry) : Span := (log.head?.map Entry.time).getD .zero

/-- The histories of a new breaker, and the calls after them. Time never runs backwards. -/
inductive History (name : String) (config : Config) : List Entry → Calls → Prop
  | new : History name config [] (.new name config)
  | next {log : List Entry} {c c' : Calls} {now : Span} {s : Step}
      (past : History name config log c) (later : clock log ≤ now)
      (step : c.next? now s = some c') :
      History name config (⟨now, s, c.breaker.state, c'.breaker.state⟩ :: log) c'

variable {name : String} {config : Config} {log : List Entry} {c c' : Calls}

/-- No entry is later than the newest. -/
theorem History.time_le_clock (h : History name config log c) : ∀ e ∈ log, e.time ≤ clock log := by
  induction h with
  | new => exact fun e he => nomatch he
  | next past later step ih =>
    intro e he
    rcases List.mem_cons.1 he with rfl | he
    · exact Nat.le_refl _
    · exact Nat.le_trans (ih e he) later

/-- The history with more steps, each at its time, and the calls after them; there is no result when
one of the steps cannot be taken or comes before the one that it follows. -/
def extend? (log : List Entry) (c : Calls) : List (Span × Step) → Option (List Entry × Calls)
  | [] => some (log, c)
  | (now, s) :: steps =>
    if clock log ≤ now then
      (c.next? now s).bind fun c' =>
        extend? (⟨now, s, c.breaker.state, c'.breaker.state⟩ :: log) c' steps
    else none

/-- A history goes on with any steps that are possible. -/
theorem History.extend (h : History name config log c) (steps : List (Span × Step))
    {log' : List Entry} (he : extend? log c steps = some (log', c')) :
    History name config log' c' := by
  induction steps generalizing log c with
  | nil =>
    cases he
    exact h
  | cons head steps ih =>
    obtain ⟨now, s⟩ := head
    unfold extend? at he
    split at he
    · next later =>
      obtain ⟨next, step, rest⟩ := Option.bind_eq_some_iff.1 he
      exact ih (h.next later step) rest
    · cases he

/-! ## What is counted -/

/-- How many entries of a kind there are since the latest entry of another. -/
def countSince (latest kind : Entry → Bool) (log : List Entry) : Nat :=
  (log.takeWhile fun e => !latest e).countP kind

/-- A count since the latest entry of a kind starts anew with each of them. -/
theorem countSince_cons (latest kind : Entry → Bool) (e : Entry) (log : List Entry) :
    countSince latest kind (e :: log) =
      if latest e then 0 else countSince latest kind log + if kind e then 1 else 0 := by
  unfold countSince
  cases hl : latest e with
  | true => simp only [List.takeWhile_cons, hl, Bool.not_true, Bool.false_eq_true, if_false,
      List.countP_nil, if_true]
  | false => simp only [List.takeWhile_cons, hl, Bool.not_false, if_true, List.countP_cons,
      Bool.false_eq_true, if_false]

/-- Since the latest there are no more than in all. -/
theorem countSince_le (latest kind : Entry → Bool) (log : List Entry) :
    countSince latest kind log ≤ log.countP kind :=
  (List.takeWhile_sublist _).countP_le

/-- A success, or the breaker closing, even one that was closed and is forced to. -/
def Entry.restarts (e : Entry) : Bool :=
  e.step.succeeds || e.enters .closed || e.step == .forceClosed

/-- How many failures were recorded since the last success was, and since the breaker last closed. -/
def failuresInRow (log : List Entry) : Nat := countSince Entry.restarts (·.step.fails) log

/-- When a failure was last recorded or the breaker last forced open, whichever came later. -/
def lastTrouble (log : List Entry) : Option Span :=
  (log.find? fun e => e.step.fails || e.step == .forceOpen).map Entry.time

/-- How many successes were recorded since the last trial began. -/
def trialSuccesses (log : List Entry) : Nat :=
  countSince (Entry.enters .halfOpen) (·.step.succeeds) log

/-- A row of failures grows with each and breaks off where the count restarts. -/
theorem failuresInRow_cons (e : Entry) (log : List Entry) :
    failuresInRow (e :: log) =
      if e.restarts then 0 else failuresInRow log + if e.step.fails then 1 else 0 :=
  countSince_cons _ _ e log

/-- The successes of a trial are counted from where it begins. -/
theorem trialSuccesses_cons (e : Entry) (log : List Entry) :
    trialSuccesses (e :: log) =
      if e.enters .halfOpen then 0 else trialSuccesses log + if e.step.succeeds then 1 else 0 :=
  countSince_cons _ _ e log

/-- The last trouble is the last failure or forced opening. -/
theorem lastTrouble_cons (e : Entry) (log : List Entry) :
    lastTrouble (e :: log) =
      if e.step.fails || e.step == .forceOpen then some e.time else lastTrouble log := by
  unfold lastTrouble
  rw [List.find?_cons]
  cases e.step.fails || e.step == .forceOpen with
  | true => rfl
  | false => rfl

/-- No trouble lies in the future. -/
theorem History.lastTrouble_le (h : History name config log c) {t : Span}
    (ht : lastTrouble log = some t) : t ≤ clock log := by
  obtain ⟨e, he, rfl⟩ := Option.map_eq_some_iff.1 ht
  exact h.time_le_clock e (List.mem_of_find?_eq_some he)

end WorkDispatch.Breaker.Calls
