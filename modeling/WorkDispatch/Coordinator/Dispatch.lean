import WorkDispatch.Coordinator.Basic

/-!
Dispatch: how the loops feed their streams. Every function here is one step of one loop, between two
points at which others may do something, and has no result when the loop is not at that point; where
the loop may do either of two things there are two functions. `Step` is everything that may happen to
a coordinator, in any order, and `next?` what comes of it.

A loop that looks for a task asks for each one anew whether its worker is active. It has the queue to
itself, but not the workers and the clock, so the answer may change from one task to the next: with
`passOver` it leaves one task behind, and `look` is the rest of the look, up to the task that it takes.
When the queue changes after a loop has passed over tasks, they count for nothing, as the change came
before the look.

A schedule is a list of steps. `settle` is the schedule that goes on with the first loop that can do
something until none can.
-/

set_option autoImplicit false

namespace WorkDispatch.Coordinator

/-- How long a loop waits before it asks again about a worker that is not active. -/
def recheckInterval : Span := .ofSeconds 1

/-- The tasks that the loop of a stream may take: those the worker could do when the stream was
opened, while it is active. -/
def suits (c : Coordinator) (s : Stream) (t : Task) : Bool :=
  s.capabilities.canHandle t.type && c.registry.isActiveAt s.workerId c.now

/-- How many tasks the loop of a stream has passed over in the look that it is at. -/
def passedOver (c : Coordinator) (i : Nat) : Nat :=
  match c.scan with
  | some n => if n.stream = i then n.passed else 0
  | none => 0

/-- The stream of a number with its loop in another phase. -/
def move (c : Coordinator) (i : Nat) (p : Stream.Phase) : Coordinator :=
  c.modify i fun s => { s with phase := p }

/-! ## Steps of a loop -/

/-- The loop asks whether its worker is active, and what it will wait for hangs on the answer. -/
def check (c : Coordinator) (i : Nat) (s : Stream) : Option Coordinator :=
  match s.phase with
  | .checking =>
    if c.registry.isActiveAt s.workerId c.now then some (c.move i .choosing)
    else some (c.move i (.holding (c.elapsed + recheckInterval)))
  | _ => none

/-- A loop that waits for nothing yet begins, and one that waits goes on when it has a reason to. The
shutdown comes first, then the worker that went away. -/
def wake (c : Coordinator) (i : Nat) (s : Stream) : Option Coordinator :=
  let ready : Option Stream.Phase :=
    match s.phase with
    | .choosing => some (.waiting .asking)
    | .holding t => some (if t ≤ c.elapsed then .checking else s.phase)
    | .waiting ⟨true, told⟩ => some (if told then .waiting .asking else s.phase)
    | _ => none
  ready.bind fun p =>
    if c.isShuttingDown then some (c.move i (.leaving .shuttingDown))
    else if !s.isOpen then some (c.move i (.leaving .leftByWorker))
    else if p = s.phase then none
    else some (c.move i p)

/-- The loop looks at a task that does not suit now, and leaves it behind. -/
def passOver (c : Coordinator) (i : Nat) (s : Stream) : Option Coordinator :=
  match s.phase, c.queue.tasks[c.passedOver i]? with
  | .waiting ⟨false, _⟩, some t =>
    if c.suits s t then none else some { c with scan := some ⟨i, c.passedOver i + 1⟩ }
  | _, _ => none

/-- The loop looks at the tasks that it has not passed over, and takes the first that suits or parks. -/
def look (c : Coordinator) (i : Nat) (s : Stream) : Option Coordinator :=
  match s.phase with
  | .waiting ⟨false, told⟩ =>
    match c.queue.takeAfter (c.passedOver i) (c.suits s) with
    | (some t, q) => some ({ c with queue := q, scan := none }.move i (.delivering t))
    | (none, _) => some ({ c with scan := none }.move i (.waiting ⟨true, told⟩))
  | _ => none

/-- The task in hand goes into the buffer. -/
def deliver (c : Coordinator) (i : Nat) (s : Stream) : Option Coordinator :=
  match s.phase with
  | .delivering t =>
    if s.hasRoom then some (c.modify i fun s => { s.put (.task t) with phase := .checking }) else none
  | _ => none

/-- The loop gives up a task that cannot be delivered, or that it no longer has to. -/
def giveUp (c : Coordinator) (i : Nat) (s : Stream) : Option Coordinator :=
  match s.phase with
  | .delivering t => if !s.isOpen || c.isShuttingDown then some (c.move i (.returning t)) else none
  | _ => none

/-- The task in hand goes back to the queue; the loops are to be told. -/
def putBack (c : Coordinator) (i : Nat) (s : Stream) : Option Coordinator :=
  match s.phase with
  | .returning t =>
    let c := { c with queue := c.queue.requeue t, scan := none, telling := c.telling + 1 }
    some (c.move i .returned)
  | _ => none

/-- The loop asks why the task was not delivered. -/
def explain (c : Coordinator) (i : Nat) (s : Stream) : Option Coordinator :=
  match s.phase with
  | .returned =>
    some (c.move i (.leaving (if c.isShuttingDown then .shuttingDown else .failedDelivery)))
  | _ => none

/-- The loop gives its stream up. -/
def leave (c : Coordinator) (i : Nat) (s : Stream) : Option Coordinator :=
  match s.phase with
  | .leaving e =>
    let c := { c with registry := c.registry.detach s.workerId i }
    some (c.move i (if s.announces && e == .shuttingDown then .announcing e else .ended e))
  | _ => none

/-- The worker is told that the coordinator shuts down, if it is there and has room for it. -/
def announce (c : Coordinator) (i : Nat) (s : Stream) : Option Coordinator :=
  match s.phase with
  | .announcing e =>
    some (c.modify i fun s =>
      let s := if s.hasRoom then s.put (.status ⟨.unavailable, e.toFailure.message⟩) else s
      { s with phase := .ended e })
  | _ => none

/-- One of those that have changed something tells the loops. -/
def tell (c : Coordinator) : Option Coordinator :=
  if c.telling = 0 then none else some { c.tellLoops with telling := c.telling - 1 }

/-! ## Schedules -/

/-- What a loop can do. -/
inductive Move
  | check | wake | look | deliver | giveUp | putBack | explain | leave | announce
  deriving DecidableEq

def Move.apply : Move → Coordinator → Nat → Stream → Option Coordinator
  | .check => Coordinator.check
  | .wake => Coordinator.wake
  | .look => Coordinator.look
  | .deliver => Coordinator.deliver
  | .giveUp => Coordinator.giveUp
  | .putBack => Coordinator.putBack
  | .explain => Coordinator.explain
  | .leave => Coordinator.leave
  | .announce => Coordinator.announce

/-- All moves; the loop that can deliver does so rather than give up. -/
def moves : List Move :=
  [.check, .wake, .look, .deliver, .giveUp, .putBack, .explain, .leave, .announce]

/-- What may happen to a coordinator. -/
inductive Step
  | register (g : Registration)
  | beginHeartbeat (id : String)
  | endHeartbeat (place : Nat) (token : String) (status : WorkerStatus) (stats : Option WorkerStats)
  | openStream (id token : String) (room : Nat) (announces : Bool)
  | feed (stream : Nat)
  | receive (stream : Nat)
  | closeStream (stream : Nat)
  | detach (id : String) (stream : Nat)
  | queueTask (t : Task)
  | take (suits : Task → Bool)
  | report (r : TaskResult)
  | prune
  | tell
  | loop (stream : Nat) (m : Move)
  /-- The loop of a stream passes over a task, and its look goes on. -/
  | passOver (stream : Nat)
  | beginShutdown
  | backdate (id : String) (age : Int)
  /-- Time passes. -/
  | pass (time : Span)

/-- The state without what failed to change it. -/
def orElse (c : Coordinator) : Except Failure Coordinator → Coordinator
  | .ok c' => c'
  | .error _ => c

/-- What comes of a step; there is no result when it cannot be taken. -/
def next? (c : Coordinator) : Step → Option Coordinator
  | .register g => some (c.orElse ((c.register g).map (·.2)))
  | .beginHeartbeat id => some (c.beginHeartbeat id)
  | .endHeartbeat place token status stats => some (c.endHeartbeat place token status stats).2
  | .openStream id token room announces =>
    some (c.orElse ((c.openStream id token room announces).map (·.2)))
  | .feed i => some (c.feed i)
  | .receive i => some (c.receive i).2
  | .closeStream i => some (c.closeStream i)
  | .detach id stream => some { c with registry := c.registry.detach id stream }
  | .queueTask t => some (c.orElse (c.queueTask t))
  | .take p => some (c.take p).2
  | .report r => some (c.orElse (c.report r))
  | .prune => some c.prune.2
  | .tell => c.tell
  | .loop i m => c.streams[i]?.bind (m.apply c i)
  | .passOver i => c.streams[i]?.bind (c.passOver i)
  | .beginShutdown => some c.beginShutdown
  | .backdate id age =>
    (c.registry.backdate? id age c.now).map fun (_, registry) => { c with registry }
  | .pass time => some { c with now := c.now.plus time, elapsed := c.elapsed + time }

/-- What comes of a schedule. -/
def run? (c : Coordinator) (steps : List Step) : Option Coordinator := steps.foldlM next? c

/-- The first move that the loop of a stream can make. -/
def progress (c : Coordinator) (i : Nat) : Option Coordinator :=
  moves.findSome? fun m => c.next? (.loop i m)

/-- The first thing that happens without anybody's doing. -/
def advance (c : Coordinator) : Option Coordinator :=
  match c.tell with
  | some c' => some c'
  | none => (List.range c.streams.length).findSome? c.progress

/-- Goes on until nothing more happens, or so many times. -/
def settleFor : Nat → Coordinator → Coordinator
  | 0, c => c
  | fuel + 1, c =>
    match c.advance with
    | some c' => settleFor fuel c'
    | none => c

/-- Goes on until nothing more happens: a loop delivers each task at most once, looks once for every
change, and ends once. -/
def settle (c : Coordinator) : Coordinator :=
  let n := c.streams.length
  settleFor (16 * (c.queue.size + c.telling + n + 1) * (n + 1)) c

end WorkDispatch.Coordinator
