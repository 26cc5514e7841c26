import WorkDispatch.Breaker.Guard
import WorkDispatch.Retry.Policy
import WorkDispatch.Retry.Run

/-!
Runs of an operation whose outcomes are given. The script says how each call ends, and the state notes
when each was made. A breaker may stand before every attempt (`runGuarded`) or before the whole run
(`guardedRun`). Backoffs are slept by a clock of their own; the breaker's clock moves by a moment with
every use of it.
-/

set_option autoImplicit false

namespace WorkDispatch.Retry

/-- How the calls of an operation end, in their order; the last outcome repeats, and a script without
any succeeds. -/
abbrev Script := List (Option Failure)

/-- How a call ends, counted from 0. -/
def Script.outcome (s : Script) (n : Nat) : Option Failure :=
  match s[n]? with
  | some o => o
  | none => s.getLast?.join

/-- Calls made so far, and what they are made with. -/
structure Scripted where
  script : Script
  policy : Policy
  /-- The call during which the run is cancelled; 0 is before the first. -/
  cancelAt : Option Nat
  breaker : Breaker
  /-- The breaker's clock. -/
  moment : Span
  /-- How long was slept. -/
  slept : Span
  /-- How long had been slept when each call was made, the latest call first. -/
  calledAt : List Span
  /-- Whether there was a backoff that has no length. -/
  broken : Bool

namespace Scripted

/-- How many calls were made. -/
def calls (s : Scripted) : Nat := s.calledAt.length

/-- Whether the run was cancelled. -/
def isCancelled (s : Scripted) : Bool :=
  match s.cancelAt with
  | some n => decide (n ≤ s.calls)
  | none => false

/-- Makes a call; its value is its number, counted from 1. -/
def call (s : Scripted) : Except Failure Nat × Scripted :=
  let s' := { s with calledAt := s.slept :: s.calledAt }
  match s.script.outcome s.calls with
  | none => (.ok s'.calls, s')
  | some e => (.error e, s')

/-- The backoff after an attempt: a sleep, or the cancellation. The run is over when the sleep has no
length. -/
def backoff (attempt : Nat) (s : Scripted) : Bool × Scripted :=
  match s.policy.sleep? attempt with
  | none => (true, { s with broken := true })
  | some d => if s.isCancelled then (true, s) else (false, { s with slept := s.slept + d })

/-- The breaker and its clock. -/
def place : Breaker.Place Scripted where
  get := breaker
  set b s := { s with breaker := b, moment := s.moment + ⟨1000⟩ }
  now := moment

/-- Tries the operation up to so many times. -/
def runPlain (operation : String) (maxAttempts : Nat) : Scripted → Except Failure Nat × Scripted :=
  run operation maxAttempts ⟨call, backoff⟩

/-- Tries the operation behind the breaker up to so many times. -/
def runGuarded (operation : String) (maxAttempts : Nat) : Scripted → Except Failure Nat × Scripted :=
  run operation maxAttempts ⟨Breaker.guarded place call, backoff⟩

/-- Tries the operation up to so many times, all behind the breaker at once. -/
def guardedRun (operation : String) (maxAttempts : Nat) : Scripted → Except Failure Nat × Scripted :=
  Breaker.guarded place (runPlain operation maxAttempts)

/-- How many whole milliseconds passed between the calls from a number on. -/
def gaps (s : Scripted) (first : Nat) : List Nat :=
  let times := s.calledAt.reverse.drop first
  (times.zip (times.drop 1)).map fun p => (⟨p.2.nanoseconds - p.1.nanoseconds⟩ : Span).millis

end Scripted

end WorkDispatch.Retry
