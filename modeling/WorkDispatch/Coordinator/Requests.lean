import WorkDispatch.Coordinator.Registry

/-!
What is asked of a registry by those who know it, and what it answers. A request carries all that the
registry does not have: the time, the token that was drawn for a worker that registers, the number of a
stream that was opened. `Visits` keeps a registry together with every request that was made of it and
the answer that was given.
-/

set_option autoImplicit false

namespace WorkDispatch.Coordinator.Registry

inductive Request
  | register (g : Registration) (token : String) (now : Instant)
  | authenticate (id token : String)
  | heartbeat (id token : String) (status : WorkerStatus) (stats : Option WorkerStats)
    (now : Instant)
  | attach (id token : String) (stream : Nat)
  | detach (id : String) (stream : Nat)
  | prune (isOpen : Nat → Bool)
  | backdate (id : String) (age : Int) (now : Instant)

/-- The worker that a request is made for and the token that is shown for it, where one is asked
for. -/
def Request.credentials? : Request → Option (String × String)
  | authenticate id token | heartbeat id token .. | attach id token _ => some (id, token)
  | _ => none

/-- What a request that is not refused is answered with. -/
inductive Answer
  | token (t : String)
  | record (w : Record)
  | status (s : WorkerStatus)
  | stream (number : Nat) (w : Record)
  | done
  | pruned (n : Nat)
  | backdated (known : Bool)
  /-- There is no such point in time, and nothing is done. -/
  | impossible

/-- Answers a request. -/
def serve (r : Registry) : Request → Except Failure Answer × Registry
  | .register g token now =>
    match r.register g token now with
    | .ok r => (.ok (.token token), r)
    | .error e => (.error e, r)
  | .authenticate id token => ((r.authenticate id token).map .record, r)
  | .heartbeat id token status stats now =>
    match r.heartbeat id token status stats now with
    | .ok (old, r) => (.ok (.status old), r)
    | .error e => (.error e, r)
  | .attach id token stream =>
    match r.attach id token stream with
    | .ok (w, r) => (.ok (.stream stream w), r)
    | .error e => (.error e, r)
  | .detach id stream => (.ok .done, r.detach id stream)
  | .prune isOpen => (.ok (.pruned (r.prune isOpen).1), (r.prune isOpen).2)
  | .backdate id age now =>
    match r.backdate? id age now with
    | some (known, r) => (.ok (.backdated known), r)
    | none => (.ok .impossible, r)

/-- A request that was made, and the answer to it. -/
structure Visit where
  request : Request
  answer : Except Failure Answer

/-- A registry, and all that was asked of it. -/
structure Visits where
  registry : Registry
  /-- The latest first. -/
  log : List Visit

namespace Visits

/-- Nothing was asked yet. -/
def blank (window : Span) : Visits := ⟨.empty window, []⟩

def next (v : Visits) (q : Request) : Visits where
  registry := (v.registry.serve q).2
  log := ⟨q, (v.registry.serve q).1⟩ :: v.log

/-- What comes of requests, one after the other. -/
def run (window : Span) (qs : List Request) : Visits := qs.foldl next (blank window)

end Visits

end WorkDispatch.Coordinator.Registry
