import WorkDispatch.Retry.Policy
import WorkDispatch.Retry.Run

/-!
Runs of an operation told in full. A course says what every call comes to, which share of its delay is
drawn in every backoff, and when the token of the run is cancelled. The state of such a run is its log,
the first entry first.

A token is asked for in backoffs only. There it races with a sleep: cancelled by then, it wins against
a sleep of any length, and one of no length may be over before the token is looked at.
-/

set_option autoImplicit false

namespace WorkDispatch.Retry

/-- When a token is cancelled, told by the calls of a run, which count from 1. -/
inductive Moment
  /-- Before the call, and after the backoff before it. -/
  | before (call : Nat)
  | during (call : Nat)
  /-- In the backoff after the call. -/
  | after (call : Nat)
  deriving DecidableEq

/-- The call after which a backoff finds the token cancelled. -/
def Moment.call : Moment → Nat
  | before n | during n | after n => n

/-- What happens in a run. -/
inductive Entry
  | called (n : Nat)
  /-- The backoff after an attempt was slept to its end. -/
  | slept (attempt : Nat) (d : Span)
  /-- The token was cancelled by the end of the backoff after an attempt. -/
  | cutShort (attempt : Nat) (d : Span)
  /-- The backoff after an attempt has no length. -/
  | unsleepable (attempt : Nat)
  deriving DecidableEq

namespace Entry

def isCall : Entry → Bool
  | called _ => true
  | _ => false

/-- The number of the call, or of the attempt before the backoff. -/
def number : Entry → Nat
  | called n | slept n _ | cutShort n _ | unsleepable n => n

end Entry

/-- How many calls a log tells of. -/
def calls (log : List Entry) : Nat := log.countP Entry.isCall

/-- All that decides a run; calls, shares and backoffs go by the number of the call. -/
structure Course (α : Type) where
  outcome : Nat → Except Failure α
  policy : Policy
  share : Nat → Float
  token : Option Moment
  /-- Whether a cancelled token is looked at before a sleep of no length is. -/
  tokenFirst : Nat → Bool

namespace Course

variable {α : Type}

/-- The length of the backoff after a call. -/
def delay? (c : Course α) (n : Nat) : Option Span := c.policy.jittered? n (c.share n)

/-- Whether the token is cancelled by the end of the backoff after a call. -/
def isCancelledBy (c : Course α) (n : Nat) : Bool :=
  match c.token with
  | some m => m.call ≤ n
  | none => false

/-- Whether the token ends the backoff after a call, which has a length. -/
def cuts (c : Course α) (n : Nat) (d : Span) : Bool :=
  c.isCancelledBy n && (d != .zero || c.tokenFirst n)

/-- Makes the next call. -/
def attempt (c : Course α) (log : List Entry) : Except Failure α × List Entry :=
  let n := calls log + 1
  (c.outcome n, log ++ [.called n])

/-- The backoff after an attempt; nothing comes after one without a length. -/
def backoff (c : Course α) (n : Nat) (log : List Entry) : Bool × List Entry :=
  match c.delay? n with
  | none => (true, log ++ [.unsleepable n])
  | some d => if c.cuts n d then (true, log ++ [.cutShort n d]) else (false, log ++ [.slept n d])

/-- What a run of the course acts on. -/
def attempts (c : Course α) : Attempts (List Entry) α := ⟨c.attempt, c.backoff⟩

end Course

end WorkDispatch.Retry
