import WorkDispatch.Settings.Basic

/-!
What a worker does again and again, each at a period that the settings give: it looks whether its
connection is up, sends a heartbeat, logs its figures, and probes the channel that it has installed.
A routine waits at a ticker, which ticks when it begins, and from then on once in every period. It lets
the first tick pass. There is no ticker without a period: a routine that asks for one breaks off.
-/

set_option autoImplicit false

namespace WorkDispatch.Worker

structure Ticker where
  period : Span
  /-- When it ticks next. -/
  next : Span
  positive : Span.zero < period

namespace Ticker

/-- A ticker that begins to tick at a time. -/
def every? (period now : Span) : Option Ticker :=
  if h : Span.zero < period then some ⟨period, now, h⟩ else none

/-- A tick. Whoever comes late finds the next one due a period after this one was. -/
def tick (t : Ticker) : Ticker := { t with next := t.next + t.period }

/-- When the next ticks are due. -/
def dues (t : Ticker) : Nat → List Span
  | 0 => []
  | n + 1 => t.next :: t.tick.dues n

end Ticker

inductive Routine
  | connectionCheck | heartbeat | statsLog | healthPoll
  deriving DecidableEq, Repr

namespace Routine

def period (w : Settings.Worker) : Routine → Span
  | connectionCheck => w.connectionCheckInterval
  | heartbeat => w.heartbeatInterval
  | statsLog => w.statsLogInterval
  | healthPoll => w.connection.healthPollInterval

/-- The ticker that a routine waits at, when it begins at a time. -/
def begin? (w : Settings.Worker) (now : Span) (r : Routine) : Option Ticker :=
  (Ticker.every? (r.period w) now).map Ticker.tick

/-- When so many rounds of a routine are due that begins at a time. -/
def rounds? (w : Settings.Worker) (now : Span) (r : Routine) (n : Nat) : Option (List Span) :=
  (r.begin? w now).map fun t => t.dues n

end Routine

end WorkDispatch.Worker
