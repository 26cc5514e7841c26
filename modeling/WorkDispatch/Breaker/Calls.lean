import WorkDispatch.Breaker.Basic
import WorkDispatch.Table

/-!
A breaker and the calls that it let through. Calls overlap: each has a name, begins when the breaker
lets it through, and either ends, well or not, or is given up.
-/

set_option autoImplicit false

namespace WorkDispatch.Breaker

/-- A breaker with the calls that it let through and that have not ended. -/
structure Calls where
  breaker : Breaker
  /-- When each call began. -/
  running : Table Span
  /-- How many calls began. -/
  started : Nat
  /-- How many calls were given up. -/
  abandoned : Nat

namespace Calls

/-- A new breaker, and no calls. -/
def new (name : String) (config : Config) : Calls := ⟨.new name config, .empty, 0, 0⟩

/-- Gives a call up. -/
def abandon (c : Calls) (id : String) : Calls :=
  match c.running.get? id with
  | some _ => { c with running := c.running.erase id, abandoned := c.abandoned + 1 }
  | none => c

/-- A call arrives, and begins if the breaker lets it. It takes the place of a call of its name. -/
def begin (c : Calls) (now : Span) (id : String) : Bool × Calls :=
  let (allowed, b) := c.breaker.arrive now
  let c := { c with breaker := b }
  if allowed then
    let c := c.abandon id
    (true, { c with running := c.running.put id now, started := c.started + 1 })
  else (false, c)

/-- A call ends; there is no result when no call of the name is running. -/
def finish? (c : Calls) (now : Span) (id : String) (succeeded : Bool) : Option Calls :=
  (c.running.get? id).map fun start =>
    let took : Span := ⟨now.nanoseconds - start.nanoseconds⟩
    { c with
      breaker := if succeeded then c.breaker.recordSuccess took else c.breaker.recordFailure now took
      running := c.running.erase id }

/-- Changes the breaker from outside. -/
def force (c : Calls) (f : Breaker → Breaker) : Calls := { c with breaker := f c.breaker }

/-- A call that arrives and ends at once, and whether it began. -/
def call (c : Calls) (now : Span) (succeeded : Bool) : Bool × Calls :=
  let (allowed, b) := c.breaker.arrive now
  if allowed then
    (true, { c with
      breaker := if succeeded then b.recordSuccess .zero else b.recordFailure now .zero
      started := c.started + 1 })
  else (false, { c with breaker := b })

end Calls

end WorkDispatch.Breaker
