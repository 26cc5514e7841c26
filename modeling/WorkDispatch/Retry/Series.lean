import WorkDispatch.Breaker.Guard
import WorkDispatch.Retry.Policy
import WorkDispatch.Retry.Run

/-!
Runs of an operation one after the other, with one breaker before every call of them all. A series says
what every call comes to, which share of its delay is drawn in the backoff after it, and what the clock
tells whenever it is asked. Nothing cancels a run. What runs act on is a `Stage`: the breaker, and the
log of all that happened, the first entry first.
-/

set_option autoImplicit false

namespace WorkDispatch.Retry

/-- All that decides runs behind a breaker; calls are counted through all of them, from 1. -/
structure Series (α : Type) where
  outcome : Nat → Except Failure α
  policy : Policy
  share : Nat → Float
  /-- What the clock tells after so many changes of the breaker and so many calls. -/
  clock : Nat → Nat → Span

namespace Series

/-- What happens in a series. -/
inductive Entry
  /-- An attempt arrives at the breaker as it is then. -/
  | arrived (b : Breaker) (now : Span)
  | called (n : Nat)
  /-- The backoff after an attempt of a run was slept to its end. -/
  | slept (attempt : Nat) (d : Span)
  /-- The backoff after an attempt has no length. -/
  | unsleepable (attempt : Nat)
  deriving DecidableEq

namespace Entry

def isCall : Entry → Bool
  | called _ => true
  | _ => false

/-- An attempt arrives at an open breaker. -/
def meetsOpen : Entry → Bool
  | arrived b _ => b.state == .opened
  | _ => false

/-- No attempt arrives at an open breaker when its timeout after the last trouble is over. -/
def isEarly : Entry → Bool
  | arrived b now =>
    match b.state, b.lastFailure with
    | .opened, some t => decide (now.nanoseconds - t.nanoseconds < b.config.timeout.nanoseconds)
    | _, _ => true
  | _ => true

end Entry

/-- Where the runs of a series have come to. -/
structure Stage where
  breaker : Breaker
  log : List Entry
  /-- How many times the breaker was changed or asked. -/
  uses : Nat

/-- How many calls were made. -/
def Stage.calls (s : Stage) : Nat := s.log.countP Entry.isCall

/-- The stage with one more entry. -/
def Stage.note (s : Stage) (e : Entry) : Stage := { s with log := s.log ++ [e] }

/-- A new breaker before the first run. -/
def fresh (name : String) (config : Breaker.Config) : Stage := ⟨.new name config, [], 0⟩

variable {α : Type}

/-- What the clock tells. -/
def now (c : Series α) (s : Stage) : Span := c.clock s.uses s.calls

/-- The breaker and the clock. -/
def place (c : Series α) : Breaker.Place Stage where
  get := Stage.breaker
  set b s := { s with breaker := b, uses := s.uses + 1 }
  now := c.now

/-- Makes the next call. -/
def call (c : Series α) (s : Stage) : Except Failure α × Stage :=
  let n := s.calls + 1
  (c.outcome n, s.note (.called n))

/-- An attempt: a call behind the breaker. -/
def attempt (c : Series α) (s : Stage) : Except Failure α × Stage :=
  Breaker.guarded c.place c.call (s.note (.arrived s.breaker (c.now s)))

/-- The backoff after an attempt; nothing comes after one without a length. -/
def backoff (c : Series α) (n : Nat) (s : Stage) : Bool × Stage :=
  match c.policy.jittered? n (c.share s.calls) with
  | none => (true, s.note (.unsleepable n))
  | some d => (false, s.note (.slept n d))

/-- What the runs of the series act on. -/
def attempts (c : Series α) : Attempts Stage α := ⟨c.attempt, c.backoff⟩

/-- What is left of a run: what happened in it, and what it came to. -/
structure Report (α : Type) where
  operation : String
  log : List Entry
  result : Except Failure α

/-- Whether an attempt of the run arrived at an open breaker. -/
def Report.metOpen (r : Report α) : Bool := r.log.any Entry.meetsOpen

/-- A run of at most so many attempts. -/
def run (c : Series α) (operation : String) (maxAttempts : Nat) (s : Stage) : Report α × Stage :=
  let (result, s') := Retry.run operation maxAttempts c.attempts s
  (⟨operation, s'.log.drop s.log.length, result⟩, s')

/-- Runs one after the other, of operations with so many attempts each. -/
def runs (c : Series α) : List (String × Nat) → Stage → List (Report α) × Stage
  | [], s => ([], s)
  | (operation, maxAttempts) :: rest, s =>
    let (r, s) := c.run operation maxAttempts s
    let (rs, s) := c.runs rest s
    (r :: rs, s)

/-- How many of the calls up to one failed since the last that did not. -/
def row (c : Series α) : Nat → Nat
  | 0 => 0
  | n + 1 =>
    match c.outcome (n + 1) with
    | .ok _ => 0
    | .error _ => c.row n + 1

end Series

end WorkDispatch.Retry
