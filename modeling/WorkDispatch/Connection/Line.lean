import WorkDispatch.Breaker.Guard
import WorkDispatch.Connection.Basic
import WorkDispatch.Retry.Policy
import WorkDispatch.Retry.Run

/-!
Using a connection, one thing after the other: to dial it, and to make calls on it, which dial it
when there is no usable channel. Both are tried as often as the policy says. What becomes of dials and
calls is for what is outside to say; it is a state of its own that they change.
-/

set_option autoImplicit false

namespace WorkDispatch.Connection

/-- A connection in use. -/
structure Line (σ : Type) where
  connection : Connection
  policy : Retry.Policy
  now : Span
  /-- How many calls were made. -/
  calls : Nat
  outside : σ

/-- Why a dial fails, if it does. -/
abbrev Dial (σ : Type) := σ → Option Failure × σ

/-- How a call ends. -/
abbrev Ask (σ α : Type) := σ → Reply α × σ

namespace Line

variable {σ α : Type}

/-- The line with its connection changed. -/
def modify (f : Connection → Connection) (l : Line σ) : Line σ :=
  { l with connection := f l.connection }

/-- The time later by a span. -/
def pass (s : Span) (l : Line σ) : Line σ := { l with now := l.now + s }

/-- The breaker before the dials, and the clock. -/
def place : Breaker.Place (Line σ) where
  get l := l.connection.breaker
  set b l := (l.modify fun c => { c with breaker := b }).pass ⟨1000⟩
  now := Line.now

/-- Dials, and installs the channel. -/
def establish (dial : Dial σ) (l : Line σ) : Except Failure Unit × Line σ :=
  match l.connection.beginDial with
  | .error e => (.error e, l)
  | .ok c =>
    let (failure, outside) := dial l.outside
    let l := { l with connection := c.endDial failure, outside }
    match failure with
    | none => (.ok (), l)
    | some e => (.error e, l)

/-- Dials if the breaker lets it. -/
def guardedDial (dial : Dial σ) : Line σ → Except Failure Unit × Line σ :=
  Breaker.guarded place (establish dial)

/-- The wait after an attempt, unless nobody waits for another one. -/
def backoff (cancelled : Bool) (attempt : Nat) (l : Line σ) : Bool × Line σ :=
  if cancelled then (true, l)
  else (false, l.pass ((l.policy.sleep? attempt).getD .zero))

/-- Dials until there is a channel or no attempt is left. -/
def connect (dial : Dial σ) (l : Line σ) : Except Failure Unit × Line σ :=
  Retry.run "connect" l.policy.maxAttempts ⟨guardedDial dial, backoff l.connection.closed⟩ l

/-- Gives the channel up and connects. -/
def reconnect (dial : Dial σ) (l : Line σ) : Except Failure Unit × Line σ :=
  connect dial (l.modify fun c => c.markDisconnected.countReconnect)

/-- Dials once, unless there is a usable channel by now or the connection was closed. -/
def reconnectOnce (dial : Dial σ) (l : Line σ) : Except Failure Unit × Line σ :=
  if l.connection.isUsable then (.ok (), l)
  else if l.connection.closed then (.error closedFailure, l)
  else guardedDial dial (l.modify Connection.countReconnect)

/-- Makes a call on the channel in use. -/
def ask (operation : String) (f : Ask σ α) (l : Line σ) : Except Failure α × Line σ :=
  match l.connection.channel? with
  | .error e => (.error e, l)
  | .ok _ =>
    let limit := l.connection.settings.requestTimeout
    let (reply, outside) := f l.outside
    let l := { l with calls := l.calls + 1, outside }
    let l := match reply with
      | .overdue => l.pass limit
      | _ => l
    match reply.toResult operation limit with
    | .ok a => (.ok a, l)
    | .error e => (.error e, l.modify (·.noteFailure e))

/-- One attempt at a call, with a dial before it when there is no usable channel. -/
def attempt (operation : String) (dial : Dial σ) (f : Ask σ α) (l : Line σ) :
    Except Failure α × Line σ :=
  match l.connection.channel? with
  | .ok _ => ask operation f l
  | .error _ =>
    match reconnectOnce dial l with
    | (.ok (), l) => ask operation f l
    | (.error e, l) => (.error e, l)

/-- Makes a call until it is answered, fails for good, or no attempt is left. -/
def call (operation : String) (cancelled : Bool) (dial : Dial σ) (f : Ask σ α) (l : Line σ) :
    Except Failure α × Line σ :=
  Retry.run operation l.policy.maxAttempts ⟨attempt operation dial f, backoff cancelled⟩ l

end Line

end WorkDispatch.Connection
