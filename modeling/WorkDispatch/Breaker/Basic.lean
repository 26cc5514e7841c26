import WorkDispatch.Bits
import WorkDispatch.Time.Span
import WorkDispatch.Vocabulary

/-!
A circuit breaker: it counts failures in a row, lets no call through once there are too many, and
tries again some time after the last one. Calls overlap, so an outcome may arrive in any state. Time
is counted from an arbitrary start and is an argument of every operation that looks at the clock.
-/

set_option autoImplicit false

namespace WorkDispatch

namespace Breaker

/-- Whether calls go through: all, none, or all for a trial. -/
inductive State
  | closed | opened | halfOpen
  deriving DecidableEq, Repr, Inhabited

instance : Named State where
  all := [.closed, .opened, .halfOpen]
  name
    | .closed => "Closed"
    | .opened => "Open"
    | .halfOpen => "HalfOpen"

/-- When a breaker opens and closes. -/
structure Config where
  /-- Failures in a row that open it. -/
  failureThreshold : Nat
  /-- Successes in a row that close it from a trial. -/
  successThreshold : Nat
  /-- How long after the last failure a trial begins. -/
  timeout : Span
  deriving DecidableEq

namespace Config

/-- The breaker before a worker's registration. -/
def registration : Config := ⟨3, 2, .ofSeconds 60⟩

/-- The breaker before the work on a task. -/
def taskProcessing : Config := ⟨5, 3, .ofSeconds 30⟩

/-- The breaker before a dial. -/
def connection : Config := ⟨5, 2, .ofSeconds 30⟩

/-- What is wrong with a configuration, if anything. -/
def problem? (c : Config) : Option String :=
  if c.failureThreshold = 0 then some "failure_threshold must be greater than 0"
  else if c.successThreshold = 0 then some "success_threshold must be greater than 0"
  else if c.timeout = .zero then some "timeout must be greater than 0"
  else none

end Config

/-- What a breaker has counted. -/
structure Metrics where
  totalCalls : Nat
  successCount : Nat
  failureCount : Nat
  rejectedCalls : Nat
  transitions : Nat
  consecutiveFailures : Nat
  consecutiveSuccesses : Nat
  totalDuration : Span
  state : State
  deriving DecidableEq

namespace Metrics

/-- Nothing counted yet. -/
def initial : Metrics := ⟨0, 0, 0, 0, 0, 0, 0, .zero, .closed⟩

/-- The share of the calls that failed. -/
def failureRate (m : Metrics) : Float :=
  if m.totalCalls = 0 then 0
  else m.failureCount.toUInt64.toFloat / m.totalCalls.toUInt64.toFloat

/-- How long a call took on average. The number of calls is taken in 32 bits, and none are left to
divide by when those are all zero. -/
def averageDuration? (m : Metrics) : Option Span :=
  if m.totalCalls = 0 then some .zero
  else
    let calls := m.totalCalls % Bits.count32
    if calls = 0 then none else some ⟨m.totalDuration.nanoseconds / calls⟩

/-- A closed breaker is healthy while less than a tenth of the calls failed or there were few; an
open one is not, and one on trial is. -/
def isHealthy (m : Metrics) : Bool :=
  match m.state with
  | .closed => m.failureRate < 0.1 || m.totalCalls < 10
  | .opened => false
  | .halfOpen => true

end Metrics

end Breaker

/-- A breaker. -/
structure Breaker where
  name : String
  config : Breaker.Config
  /-- When a failure was last recorded, or the breaker last forced open. -/
  lastFailure : Option Span
  metrics : Breaker.Metrics
  deriving DecidableEq

namespace Breaker

/-- A breaker that lets calls through and has counted none. -/
def new (name : String) (config : Config) : Breaker := ⟨name, config, none, .initial⟩

def state (b : Breaker) : State := b.metrics.state

/-- Moves to a state, which counts as a transition even when it was there already. Successes in a
row start again, and failures in a row when it closes. -/
def transition (b : Breaker) (s : State) : Breaker :=
  { b with metrics := { b.metrics with
      state := s
      transitions := b.metrics.transitions + 1
      consecutiveSuccesses := 0
      consecutiveFailures := if s = .closed then 0 else b.metrics.consecutiveFailures } }

/-- Whether the time after which a trial begins has passed. -/
def isDue (b : Breaker) (now : Span) : Bool :=
  match b.lastFailure with
  | some t => b.config.timeout.nanoseconds ≤ now.nanoseconds - t.nanoseconds
  | none => true

/-- Whether a call that arrives may run. The first one that is let through an open breaker begins a
trial; one that is not is counted and nothing else changes. -/
def arrive (b : Breaker) (now : Span) : Bool × Breaker :=
  match b.state with
  | .closed | .halfOpen => (true, b)
  | .opened =>
    if b.isDue now then (true, b.transition .halfOpen)
    else (false, { b with metrics := { b.metrics with rejectedCalls := b.metrics.rejectedCalls + 1 } })

/-- A call ended well. On trial, enough of these in a row close the breaker. -/
def recordSuccess (b : Breaker) (took : Span) : Breaker :=
  let m := b.metrics
  let counted := { b with metrics := { m with
      totalCalls := m.totalCalls + 1
      successCount := m.successCount + 1
      totalDuration := m.totalDuration + took
      consecutiveFailures := 0
      consecutiveSuccesses :=
        if m.state = .halfOpen then m.consecutiveSuccesses + 1 else m.consecutiveSuccesses } }
  if m.state = .halfOpen ∧ b.config.successThreshold ≤ counted.metrics.consecutiveSuccesses then
    counted.transition .closed
  else counted

/-- A call failed. Enough of these in a row open the breaker, and on trial one does. -/
def recordFailure (b : Breaker) (now took : Span) : Breaker :=
  let m := b.metrics
  let counted := { b with
    lastFailure := some now
    metrics := { m with
      totalCalls := m.totalCalls + 1
      failureCount := m.failureCount + 1
      totalDuration := m.totalDuration + took
      consecutiveFailures := m.consecutiveFailures + 1
      consecutiveSuccesses := 0 } }
  match m.state with
  | .closed =>
    if b.config.failureThreshold ≤ counted.metrics.consecutiveFailures then
      counted.transition .opened
    else counted
  | .halfOpen => counted.transition .opened
  | .opened => counted

/-- Opens the breaker whatever it has counted. -/
def forceOpen (b : Breaker) (now : Span) : Breaker :=
  { b with lastFailure := some now }.transition .opened

/-- Closes the breaker whatever it has counted. -/
def forceClosed (b : Breaker) : Breaker := b.transition .closed

/-! ## Calls that overlap -/

/-- What can happen to a breaker: a call arrives, a call that was let through ends or is given up,
or the breaker is forced. -/
inductive Event
  | arrive
  | succeed (took : Span)
  | fail (took : Span)
  | abandon
  | forceOpen
  | forceClosed
  deriving DecidableEq

/-- The breaker after an event. A call that is given up leaves no trace. -/
def apply (b : Breaker) (now : Span) : Event → Breaker
  | .arrive => (b.arrive now).2
  | .succeed took => b.recordSuccess took
  | .fail took => b.recordFailure now took
  | .abandon => b
  | .forceOpen => b.forceOpen now
  | .forceClosed => b.forceClosed

/-- The breaker after events at their times. -/
def applyAll (b : Breaker) (es : List (Span × Event)) : Breaker :=
  es.foldl (fun b e => b.apply e.1 e.2) b

end Breaker

end WorkDispatch
