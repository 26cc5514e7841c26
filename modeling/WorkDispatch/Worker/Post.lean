import WorkDispatch.Coordinator.Reports
import WorkDispatch.Worker.Client

/-!
The way of a report to the coordinator and of the answer back. Both travel as bytes. What becomes of a
call is laid down (`Passage`): the request or the answer may be lost, so that a report may be accepted
and not be answered, and other things may happen to the coordinator before the request comes, before the
caller goes on, and while the worker dials.
-/

set_option autoImplicit false

namespace WorkDispatch

/-- A message as it is read on the other side, if it can be sent: its length is written in four bytes. -/
def Wire.carry? {α : Type} [Message α] (m : α) : Option α :=
  let bs := Message.encode m
  if bs.length < Bits.count32 then Message.decode? bs else none

namespace Worker

open Coordinator (Reports Step)

/-- What becomes of a call. -/
structure Passage where
  /-- What happens at the coordinator before the request comes, or instead. -/
  before : List Step
  /-- Whether the request comes. -/
  arrives : Bool
  /-- What happens between the request and the end of the call. -/
  after : List Step
  /-- Whether the answer comes. -/
  returns : Bool
  /-- The status that the caller is given when no answer comes; without one it waits in vain. -/
  loss : Option Status

/-- How a call ends that is not answered. -/
def Passage.lost {α : Type} (p : Passage) : Reply α :=
  match p.loss with
  | some s => .refusal s
  | none => .overdue

/-- A coordinator, and what is to become of the calls and dials of a worker to it. -/
structure Post where
  reports : Reports
  /-- What becomes of the call of a number. -/
  passage : Nat → Passage
  /-- Why the dial of a number fails, if it does, and what happens at the coordinator meanwhile. -/
  dialing : Nat → Option Failure × List Step
  calls : Nat
  dials : Nat

namespace Post

def dial : Connection.Dial Post := fun p =>
  let (failure, steps) := p.dialing p.dials
  (failure, { p with reports := p.reports.run steps, dials := p.dials + 1 })

/-- What the coordinator says to a request, if it comes. -/
def deliver (p : Passage) (m : Wire.ResultRequest) (r : Reports) :
    Option (Except Status Wire.ResultResponse) × Reports :=
  match Wire.carry? m with
  | some m => if p.arrives then ((r.answer m).map some id) else (none, r)
  | none => (none, r)

/-- How a call ends for the caller when the coordinator said something, or nothing. -/
def reply (p : Passage) : Option (Except Status Wire.ResultResponse) → Reply Wire.ResultResponse
  | some (.ok a) => if p.returns then (Wire.carry? a).elim p.lost .answer else p.lost
  | some (.error s) => if p.returns then .refusal s else p.lost
  | none => p.lost

def report (m : Wire.ResultRequest) : Connection.Ask Post Wire.ResultResponse := fun p =>
  let w := p.passage p.calls
  let (said, r) := deliver w m (p.reports.run w.before)
  (reply w said, { p with reports := r.run w.after, calls := p.calls + 1 })

/-- A remote that is dialed and reported to in this way. -/
def remote (r : Remote Post) : Remote Post := { r with dial, report }

end Post

end Worker

end WorkDispatch
