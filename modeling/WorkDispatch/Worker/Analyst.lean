import WorkDispatch.Failure
import WorkDispatch.Time.Span

/-!
An analysis service whose behaviour is laid down: how it behaves at each call, in their order, and
like the offline service after that. A call may wait for a release; releases that nobody waits for
are kept.
-/

set_option autoImplicit false

namespace WorkDispatch.Worker

/-- How the service behaves at a call. -/
inductive Behaviour
  | answers
  | answersAfter (s : Span)
  | answersOnRelease
  | hangs
  | fails (f : Failure)
  deriving DecidableEq

structure Analyst where
  name : String
  /-- How it will behave at the next calls. -/
  script : List Behaviour
  /-- Why it is not well, if it is not. -/
  illness : Option Failure
  /-- How many calls were made. -/
  calls : Nat
  /-- How many calls are being answered. -/
  running : Nat
  /-- The most calls that were being answered at a time. -/
  peak : Nat
  /-- Releases that nobody waited for. -/
  releases : Nat

namespace Analyst

def new (name : String) (script : List Behaviour) (illness : Option Failure) : Analyst :=
  ⟨name, script, illness, 0, 0, 0, 0⟩

/-- A call is made, and the service says how it behaves at it. -/
def begin (a : Analyst) : Behaviour × Analyst :=
  (a.script.headD .answers,
    { a with
      script := a.script.tail
      calls := a.calls + 1
      running := a.running + 1
      peak := max a.peak (a.running + 1) })

/-- A call ends, or nobody waits for it any more. -/
def finish (a : Analyst) : Analyst := { a with running := a.running - 1 }

end Analyst

end WorkDispatch.Worker
