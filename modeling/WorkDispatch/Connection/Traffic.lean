import WorkDispatch.Connection.Basic

/-!
A connection that many use at once. Dials wait for each other; calls do not, and their replies may
come after their channel was replaced or the connection closed. `Event` is everything that may happen
between two points at which others may do something, in any order; one that cannot happen changes
nothing.
-/

set_option autoImplicit false

namespace WorkDispatch.Connection

/-- A connection, the dial in flight and the calls in flight. -/
structure Traffic where
  connection : Connection
  dialing : Bool
  /-- The channel of every call in flight, in the order in which they were made. -/
  calls : List Nat

namespace Traffic

/-- Nobody uses the connection yet. -/
def idle (c : Connection) : Traffic := ⟨c, false, []⟩

inductive Event
  /-- A dial begins. -/
  | dial
  /-- The dial ends. -/
  | dialed (failure : Option Failure)
  /-- Whoever dialed no longer waits for it. -/
  | dialDropped
  /-- A call is made. -/
  | call
  /-- A call of a number ends. -/
  | replied (number : Nat) (failure : Option Failure)
  /-- A probe of a channel of a number ends without an answer. -/
  | silent (channel : Nat)
  /-- Someone gives the channel up. -/
  | markDisconnected
  /-- Someone asks for another channel. -/
  | reconnect
  | close
  deriving DecidableEq

/-- The traffic with its connection changed. -/
def modify (t : Traffic) (f : Connection → Connection) : Traffic :=
  { t with connection := f t.connection }

/-- What comes of an event. -/
def apply (t : Traffic) : Event → Traffic
  | .dial =>
    if t.dialing then t
    else match t.connection.beginDial with
      | .ok c => { t with connection := c, dialing := true }
      | .error _ => t
  | .dialed failure =>
    if t.dialing then { t with connection := t.connection.endDial failure, dialing := false } else t
  | .dialDropped => { t with dialing := false }
  | .call =>
    match t.connection.channel? with
    | .ok n => { t with calls := t.calls ++ [n] }
    | .error _ => t
  | .replied number failure =>
    match t.calls[number]?, failure with
    | some _, some e => { t.modify (·.noteFailure e) with calls := t.calls.eraseIdx number }
    | some _, none => { t with calls := t.calls.eraseIdx number }
    | none, _ => t
  | .silent channel =>
    if 0 < channel ∧ channel ≤ t.connection.generation then t.modify (·.noteSilence channel) else t
  | .markDisconnected => t.modify Connection.markDisconnected
  | .reconnect => t.modify fun c => c.markDisconnected.countReconnect
  | .close => t.modify Connection.close

/-- What comes of events, one after the other. -/
def applyAll (t : Traffic) (es : List Event) : Traffic := es.foldl apply t

end Traffic

end WorkDispatch.Connection
