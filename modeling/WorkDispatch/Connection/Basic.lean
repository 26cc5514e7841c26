import WorkDispatch.Breaker.Basic
import WorkDispatch.Failure
import WorkDispatch.Settings.Basic

/-!
A worker's connection to the coordinator: one channel in use, which is given up when it fails and
replaced by the next dial. Channels are numbered as they are installed. A dial has two ends, between
which anything may happen to the connection; so has a call, which is made on the channel that was in
use when it began.
-/

set_option autoImplicit false

namespace WorkDispatch

/-- What is last known of a connection. -/
inductive Connectivity
  | idle | connecting | ready | transientFailure | shutdown
  deriving DecidableEq, Repr

namespace Connectivity

instance : Named Connectivity where
  all := [.idle, .connecting, .ready, .transientFailure, .shutdown]
  name
    | .idle => "IDLE"
    | .connecting => "CONNECTING"
    | .ready => "READY"
    | .transientFailure => "TRANSIENT_FAILURE"
    | .shutdown => "SHUTDOWN"

/-- The name that messages use. -/
def label : Connectivity → String
  | idle => "Idle"
  | connecting => "Connecting"
  | ready => "Ready"
  | transientFailure => "TransientFailure"
  | shutdown => "Shutdown"

/-- Whether no call should be made. -/
def isFailure : Connectivity → Bool
  | transientFailure | shutdown => true
  | _ => false

end Connectivity

structure Connection where
  settings : Settings.Connection
  /-- It stands before every dial. -/
  breaker : Breaker
  /-- The number of the channel that is installed. -/
  channel : Option Nat
  connectivity : Connectivity
  connected : Bool
  /-- How many channels were installed; the latest has this number. -/
  generation : Nat
  /-- How many dials were to replace a channel that was given up. -/
  reconnects : Nat
  closed : Bool

namespace Connection

/-- A connection that was never dialed. -/
def new (s : Settings.Connection) (c : Breaker.Config) : Connection :=
  ⟨s, .new "connection" c, none, .idle, false, 0, 0, false⟩

/-- Whether calls can be made. -/
def isUsable (c : Connection) : Bool := c.connected && !c.connectivity.isFailure

/-- The channel that a call is made on. -/
def channel? (c : Connection) : Except Failure Nat :=
  if c.isUsable then
    match c.channel with
    | some n => .ok n
    | none => .error (.notConnected ("no channel to " ++ c.settings.endpoint))
  else
    .error (.notConnected ("no usable channel to " ++ c.settings.endpoint ++
      " (" ++ c.connectivity.label ++ ")"))

/-- Gives the channel up, for what is now known of the connection. -/
def disconnect (c : Connection) (k : Connectivity) : Connection :=
  { c with connected := false, connectivity := k }

/-- Gives the channel up as one that failed. -/
def markDisconnected (c : Connection) : Connection := c.disconnect .transientFailure

/-- Notes that a dial is made in place of a channel that was given up. -/
def countReconnect (c : Connection) : Connection := { c with reconnects := c.reconnects + 1 }

/-- The failure of whoever needs a connection that was closed. -/
def closedFailure : Failure := .cancelled "connection manager is closed"

/-- A dial begins, unless the connection was closed. -/
def beginDial (c : Connection) : Except Failure Connection :=
  if c.closed then .error closedFailure else .ok { c with connectivity := .connecting }

/-- A dial ends: with a failure, or with a channel, which is installed. -/
def endDial (c : Connection) : Option Failure → Connection
  | some _ => c.markDisconnected
  | none =>
    { c with
      generation := c.generation + 1
      channel := some (c.generation + 1)
      connected := true
      connectivity := .ready }

/-- What a call that failed means to the connection. -/
def noteFailure (c : Connection) (f : Failure) : Connection :=
  if f.isConnectionFailure then c.markDisconnected else c

/-- What a probe means that a channel did not answer: nothing, once another one was installed. -/
def noteSilence (c : Connection) (channel : Nat) : Connection :=
  if channel = c.generation then c.markDisconnected else c

/-- Closes the connection, for good. Closing it again does nothing. -/
def close (c : Connection) : Connection :=
  if c.closed then c else { c with closed := true, channel := none }.disconnect .shutdown

end Connection

/-- How a remote call ends. -/
inductive Reply (α : Type)
  | answer (a : α)
  | refusal (s : Status)
  /-- None came in time. -/
  | overdue

/-- What a reply to an operation comes to, when so long was waited for it. -/
def Reply.toResult {α : Type} (operation : String) (limit : Span) : Reply α → Except Failure α
  | answer a => .ok a
  | refusal s => .error (.rpc s)
  | overdue => .error (.timeout (operation ++ " exceeded " ++ limit.text))

end WorkDispatch
