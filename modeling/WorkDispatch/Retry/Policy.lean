import WorkDispatch.Binary64
import WorkDispatch.Bits

/-!
How long to wait between attempts: delays that grow by a factor up to a bound, and a share of them
added or taken away at random. A delay that is no span has no value here, and neither has a random
share of a range that is none.
-/

set_option autoImplicit false

namespace WorkDispatch.Retry

/-- How often to try, and how long to wait between attempts. -/
structure Policy where
  /-- Attempts in all, the first included. -/
  maxAttempts : Nat
  initialDelay : Span
  maxDelay : Span
  backoffFactor : Float
  /-- The share of a delay by which it may grow or shrink. -/
  jitter : Float

namespace Policy

/-- Five attempts, with delays from a tenth of a second to half a minute. -/
def default : Policy := ⟨5, .ofMillis 100, .ofSeconds 30, 2, 0.1⟩

instance : Inhabited Policy := ⟨default⟩

/-- Delays of a few milliseconds, always the same. -/
def fast (maxAttempts : Nat) : Policy := ⟨maxAttempts, .ofMillis 1, .ofMillis 10, 2, 0⟩

/-- What is wrong with a policy, if anything. -/
def problem? (p : Policy) : Option String :=
  if p.maxAttempts = 0 then some "max_attempts must be at least 1"
  else if p.backoffFactor < 1 then some "backoff_factor must be at least 1.0"
  else if !(0 ≤ p.jitter && p.jitter ≤ 1) then some "jitter must be within [0.0, 1.0]"
  else if p.maxDelay < p.initialDelay then some "initial_delay must not exceed max_delay"
  else none

/-- A power by squaring: the factor of every binary digit that is set is multiplied in, from the
lowest. The first argument bounds the digits. -/
def powerFrom : Nat → Float → Nat → Float → Float
  | 0, _, _, r => r
  | fuel + 1, a, e, r =>
    let r := if e % 2 = 1 then r * a else r
    if e / 2 = 0 then r else powerFrom fuel (a * a) (e / 2) r

def power (a : Float) (e : Nat) : Float := powerFrom 32 a e 1

/-- The smaller of two numbers, and of one number what is one. -/
def lesser (a b : Float) : Float :=
  if a.isNaN then b else if b.isNaN then a else if b < a then b else a

/-- The delay after an attempt, counted from 1. -/
def delay? (p : Policy) (attempt : Nat) : Option Span :=
  let exponent := min (attempt - 1) (Bits.count31 - 1)
  let base := Binary64.ofSpan p.initialDelay * power p.backoffFactor exponent
  let capped := lesser base (Binary64.ofSpan p.maxDelay)
  if capped.isFinite && 0 ≤ capped then Binary64.toSpan? capped else some p.maxDelay

/-- Whether a share can be drawn from `[-jitter, jitter]`. -/
def drawable (p : Policy) : Bool := (p.jitter + p.jitter).isFinite

/-- The delay after an attempt, changed by a share that was drawn from `[-jitter, jitter]`. -/
def jittered? (p : Policy) (attempt : Nat) (share : Float) : Option Span := do
  let d ← p.delay? attempt
  if p.jitter ≤ 0 || d = .zero then some d
  else if p.drawable then
    let factor := 1 + share
    Binary64.toSpan? ((if factor < 0 then 0 else factor) * Binary64.ofSpan d)
  else none

/-- Whether the delay after an attempt is the same whatever share is drawn. -/
def isExact (p : Policy) (attempt : Nat) : Bool :=
  p.jitter ≤ 0 || p.delay? attempt = some .zero

/-- The longest that a backoff is slept: thirty years. -/
def longestSleep : Span := .ofSeconds 946080000

/-- How long the backoff after an attempt is slept when no share of it is drawn; a sleep ends on a
whole millisecond. -/
def sleep? (p : Policy) (attempt : Nat) : Option Span := do
  let d ← p.delay? attempt
  if p.isExact attempt ∨ p.drawable then some (min d.ceilMillis longestSleep) else none

end Policy

end WorkDispatch.Retry
