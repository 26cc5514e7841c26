import WorkDispatch.Breaker.Guard
import WorkDispatch.Retry.Course

/-!
Runs of an operation one after the other, each behind one breaker as a whole: the breaker is asked once
before a run and told once how it ended. A round is such a run with all that decides how it goes, its
token included. What rounds act on is a `Stage`: the breaker, and the log of all rounds that it let
through, the first entry first.
-/

set_option autoImplicit false

namespace WorkDispatch.Retry

/-- A run behind a breaker, of an operation with so many attempts. -/
structure Round (α : Type) where
  operation : String
  maxAttempts : Nat
  course : Course α

namespace Round

/-- Where rounds have come to. -/
structure Stage where
  breaker : Breaker
  log : List Entry
  /-- How many times the breaker was changed or asked. -/
  uses : Nat

/-- A new breaker before the first round. -/
def fresh (name : String) (config : Breaker.Config) : Stage := ⟨.new name config, [], 0⟩

/-- The breaker, and a clock that tells the time of every stage. -/
def place (clock : Stage → Span) : Breaker.Place Stage where
  get := Stage.breaker
  set b s := { s with breaker := b, uses := s.uses + 1 }
  now := clock

variable {α : Type}

/-- The run of a round by itself: what it comes to, and its log. -/
def alone (r : Round α) : Except Failure α × List Entry :=
  Retry.run r.operation r.maxAttempts r.course.attempts []

/-- The run of a round that was let through. -/
def admitted (r : Round α) (s : Stage) : Except Failure α × Stage :=
  (r.alone.1, { s with log := s.log ++ r.alone.2 })

/-- What is left of a round: the breaker before and after it, when it arrived, what happened in it,
and what it came to. -/
structure Report (α : Type) where
  before : Breaker
  arrival : Span
  log : List Entry
  result : Except Failure α
  after : Breaker

/-- Whether the breaker let the round through. -/
def Report.isAdmitted (p : Report α) : Bool := p.before.state != .opened

/-- A round arrives at the breaker. -/
def guarded (clock : Stage → Span) (r : Round α) (s : Stage) : Report α × Stage :=
  let (result, s') := Breaker.guarded (place clock) r.admitted s
  (⟨s.breaker, clock s, s'.log.drop s.log.length, result, s'.breaker⟩, s')

/-- Rounds one after the other. -/
def runs (clock : Stage → Span) : List (Round α) → Stage → List (Report α) × Stage
  | [], s => ([], s)
  | r :: rs, s =>
    let (p, s) := r.guarded clock s
    let (ps, s) := runs clock rs s
    (p :: ps, s)

end Round

end WorkDispatch.Retry
