import WorkDispatch.Time.Span
import WorkDispatch.Time.Calendar

/-!
Points in time: seconds since 1 January 1970 and nanoseconds, of which a leap second has a second
second's worth. `Instant.ofUnix?` says which pairs denote a point.
-/

set_option autoImplicit false

namespace WorkDispatch

/-- The pairs of seconds and nanoseconds that denote a point in time: the years -262143 to 262142,
and nanoseconds beyond a full second only where a minute may have a leap second. -/
def Denotes (seconds : Int) (nanos : Nat) : Prop :=
  -8334601228800 ≤ seconds ∧ seconds ≤ 8210266876799 ∧
    (nanos < 1000000000 ∨ nanos < 2000000000 ∧ seconds % 60 = 59)

instance (seconds : Int) (nanos : Nat) : Decidable (Denotes seconds nanos) :=
  inferInstanceAs (Decidable (_ ∧ _))

/-- A point in time. -/
structure Instant where
  seconds : Int
  nanos : Nat
  denotes : Denotes seconds nanos
  deriving DecidableEq

namespace Instant

/-- The point that a pair denotes, when it denotes one. -/
def ofUnix? (seconds : Int) (nanos : Nat) : Option Instant :=
  if h : Denotes seconds nanos then some ⟨seconds, nanos, h⟩ else none

/-- The start of 1970. -/
def epoch : Instant := ⟨0, 0, by decide⟩

/-- The last point that has a number. -/
def latest : Instant := ⟨8210266876799, 999999999, by decide⟩

instance : Inhabited Instant := ⟨epoch⟩

/-- Seconds first, then nanoseconds: a leap second comes after the second it belongs to. -/
instance : LE Instant :=
  ⟨fun a b => a.seconds < b.seconds ∨ a.seconds = b.seconds ∧ a.nanos ≤ b.nanos⟩
instance : LT Instant :=
  ⟨fun a b => a.seconds < b.seconds ∨ a.seconds = b.seconds ∧ a.nanos < b.nanos⟩
instance (a b : Instant) : Decidable (a ≤ b) :=
  inferInstanceAs (Decidable (a.seconds < b.seconds ∨ a.seconds = b.seconds ∧ a.nanos ≤ b.nanos))
instance (a b : Instant) : Decidable (a < b) :=
  inferInstanceAs (Decidable (a.seconds < b.seconds ∨ a.seconds = b.seconds ∧ a.nanos < b.nanos))

/-- The second of its day. -/
def secondOfDay (i : Instant) : Int := i.seconds % 86400

/-- Nanoseconds from `b` to `a`. A leap second counts when it lies earlier in the day than the other
point does. -/
def since (a b : Instant) : Int :=
  let adjust : Int :=
    if b.secondOfDay < a.secondOfDay then (if 1000000000 ≤ b.nanos then 1 else 0)
    else if a.secondOfDay < b.secondOfDay then (if 1000000000 ≤ a.nanos then -1 else 0)
    else 0
  (a.seconds - b.seconds + adjust) * 1000000000 + ((a.nanos : Int) - (b.nanos : Int))

/-- The point that lies so many nanoseconds later, when there is one. -/
def after? (i : Instant) (n : Int) : Option Instant :=
  let total := i.seconds * 1000000000 + i.nanos + n
  ofUnix? (total / 1000000000) (total % 1000000000).toNat

/-- The point that lies so many nanoseconds later; none lies after the last one. -/
def plusNanos (i : Instant) (n : Int) : Instant := (i.after? n).getD latest

/-- The point that lies a span later. -/
def plus (i : Instant) (s : Span) : Instant := i.plusNanos s.nanoseconds

/-- An instant is made of its own seconds and nanoseconds. -/
@[simp] theorem ofUnix?_self (i : Instant) : ofUnix? i.seconds i.nanos = some i := by
  simp only [ofUnix?, i.denotes, dite_true]

end Instant

end WorkDispatch
