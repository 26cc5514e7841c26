import WorkDispatch.Time.Instant

/-!
# Time that passes

A clock does not tell leap seconds, and on the points that it tells, `Instant.since` is a difference: it
grows as time passes. `Instant.since_mono` and `Instant.since_le_of_le` say so. Over a leap second it need
not: the second counts on the day in which it lies and no longer after midnight. Between points that are
three seconds apart it does (`Instant.since_le_of_apart`).
-/

set_option autoImplicit false

namespace WorkDispatch.Instant

/-- The point does not lie in a leap second. -/
def IsPlain (i : Instant) : Prop := i.nanos < 1000000000

instance (i : Instant) : Decidable i.IsPlain := inferInstanceAs (Decidable (i.nanos < 1000000000))

/-- Nanoseconds since the start of 1970, leap seconds not counted. -/
def total (i : Instant) : Int := i.seconds * 1000000000 + i.nanos

/-- Outside leap seconds, what is past is a difference. -/
theorem since_of_isPlain {a b : Instant} (ha : a.IsPlain) (hb : b.IsPlain) :
    a.since b = a.total - b.total := by
  have noLeap : ∀ {n : Nat}, n < 1000000000 → ¬ 1000000000 ≤ n := fun h => Nat.not_le.mpr h
  simp only [since, noLeap ha, noLeap hb, if_false, ite_self, total]
  omega

theorem isPlain_latest : latest.IsPlain := by decide

/-- Nothing is later than the latest. -/
theorem total_le_latest {i : Instant} (h : i.IsPlain) : i.total ≤ latest.total := by
  have last := i.denotes.2.1
  simp only [IsPlain] at h
  simp only [total, latest]
  omega

/-- A point that is reached by counting nanoseconds is the one that the count stands for. -/
theorem after?_eq_some {i j : Instant} {n : Int} (h : i.after? n = some j) :
    j.IsPlain ∧ j.total = i.total + n := by
  simp only [after?, ofUnix?] at h
  split at h
  · cases h
    simp only [IsPlain, total]
    omega
  · cases h

/-- What is reached by counting lies in no leap second. -/
theorem isPlain_plus (i : Instant) (s : Span) : (i.plus s).IsPlain := by
  simp only [plus, plusNanos]
  cases h : i.after? s.nanoseconds with
  | none => exact isPlain_latest
  | some j => exact (after?_eq_some h).1

/-- Counting on does not lead back. -/
theorem total_le_plus {i : Instant} (h : i.IsPlain) (s : Span) : i.total ≤ (i.plus s).total := by
  simp only [plus, plusNanos]
  cases hj : i.after? s.nanoseconds with
  | none => exact total_le_latest h
  | some j =>
    have reached := (after?_eq_some hj).2
    simp only [Option.getD_some]
    omega

/-- What was long ago is longer ago later. -/
theorem since_mono {a b : Instant} (ha : a.IsPlain) (hb : b.IsPlain) (s : Span) :
    a.since b ≤ (a.plus s).since b := by
  have later := total_le_plus ha s
  rw [since_of_isPlain ha hb, since_of_isPlain (isPlain_plus a s) hb]
  omega

/-- On the points that a clock tells, what is past at one is longer past at a later one. -/
theorem since_le_of_le {a b i : Instant} (ha : a.IsPlain) (hb : b.IsPlain) (hi : i.IsPlain)
    (h : a ≤ b) : a.since i ≤ b.since i := by
  have order : a.seconds < b.seconds ∨ a.seconds = b.seconds ∧ a.nanos ≤ b.nanos := h
  rw [since_of_isPlain ha hi, since_of_isPlain hb hi]
  simp only [IsPlain, total] at ha ⊢
  omega

/-- A leap second is taken off only where it lies, so that it never takes more than is there. -/
theorem le_since (a i : Instant) : a.seconds * 1000000000 - i.total ≤ a.since i := by
  simp only [since, total]
  split
  · split <;> omega
  · split
    · split <;> omega
    · omega

/-- Whatever leap seconds there are, less than three seconds are added for them. -/
theorem since_lt (a i : Instant) : a.since i < (a.seconds + 3) * 1000000000 - i.total := by
  have last := a.denotes.2.2
  simp only [since, total]
  split
  · split <;> omega
  · split
    · split <;> omega
    · omega

/-- On all points it is so once there are more seconds between two than leap seconds can make up for. -/
theorem since_le_of_apart {a b i : Instant} (h : a.seconds + 3 ≤ b.seconds) :
    a.since i ≤ b.since i := by
  have upper := since_lt a i
  have lower := le_since b i
  omega

end WorkDispatch.Instant
