import WorkDispatch.Bits
import WorkDispatch.Text.Decimal

/-!
Lengths of time, counted in nanoseconds. `Span.text` is the short form that messages use: the largest
unit that the length reaches, and as many places as it needs.
-/

set_option autoImplicit false

namespace WorkDispatch

/-- A length of time. -/
structure Span where
  nanoseconds : Nat
  deriving DecidableEq, Repr, Inhabited

namespace Span

instance : LE Span := ⟨fun a b => a.nanoseconds ≤ b.nanoseconds⟩
instance : LT Span := ⟨fun a b => a.nanoseconds < b.nanoseconds⟩
instance (a b : Span) : Decidable (a ≤ b) :=
  inferInstanceAs (Decidable (a.nanoseconds ≤ b.nanoseconds))
instance (a b : Span) : Decidable (a < b) :=
  inferInstanceAs (Decidable (a.nanoseconds < b.nanoseconds))
instance : Min Span := ⟨fun a b => if a ≤ b then a else b⟩
instance : Add Span := ⟨fun a b => ⟨a.nanoseconds + b.nanoseconds⟩⟩

/-- Nanoseconds in a second. -/
def perSecond : Nat := 1000000000

/-- No length at all. -/
def zero : Span := ⟨0⟩

/-- A length of whole seconds and the nanoseconds beyond them. -/
def ofParts (secs nanos : Nat) : Span := ⟨secs * perSecond + nanos⟩

def ofSeconds (n : Nat) : Span := ⟨n * perSecond⟩
def ofMillis (n : Nat) : Span := ⟨n * 1000000⟩

/-- The whole seconds. -/
def secs (s : Span) : Nat := s.nanoseconds / perSecond

/-- The nanoseconds beyond the whole seconds. -/
def subsecNanos (s : Span) : Nat := s.nanoseconds % perSecond

/-- The whole milliseconds. -/
def millis (s : Span) : Nat := s.nanoseconds / 1000000

/-- The shortest length of whole milliseconds that is no shorter: a timer ends on one. -/
def ceilMillis (s : Span) : Span := .ofMillis ((s.nanoseconds + 999999) / 1000000)

/-- Seconds are counted in 64 bits: from this length on there is no span. -/
def limit : Nat := Bits.count64 * perSecond

/-- A span is made of its own seconds and nanoseconds. -/
@[simp] theorem ofParts_secs_subsecNanos (s : Span) : ofParts s.secs s.subsecNanos = s := by
  cases s with
  | mk n => simp only [ofParts, secs, subsecNanos, Nat.div_add_mod']

/-- The places of a fraction, without the zeros that end it. -/
def places (width n : Nat) : String :=
  String.ofList ((Text.padded width n).toList.reverse.dropWhile (· == '0')).reverse

/-- A whole number of units, the fraction of the next one, and the unit. -/
def inUnit (whole width fraction : Nat) (unit : String) : String :=
  toString whole ++ (if fraction = 0 then "" else "." ++ places width fraction) ++ unit

/-- The length in the largest unit of s, ms, µs and ns that it reaches. -/
def text (s : Span) : String :=
  let n := s.nanoseconds
  if perSecond ≤ n then inUnit (n / perSecond) 9 (n % perSecond) "s"
  else if 1000000 ≤ n then inUnit (n / 1000000) 6 (n % 1000000) "ms"
  else if 1000 ≤ n then inUnit (n / 1000) 3 (n % 1000) "µs"
  else inUnit n 1 0 "ns"

end Span

end WorkDispatch
