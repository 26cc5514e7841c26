import WorkDispatch.Breaker.Basic
import WorkDispatch.Failure

/-!
Running an operation behind a breaker. The operation acts on a state that holds the breaker and the
clock: `Clocked` says where they are. `guarded` is one call from its arrival to its outcome, during
which the operation may move everything else, the breaker included.
-/

set_option autoImplicit false

namespace WorkDispatch.Breaker

/-- Where in a state a breaker and the clock are. -/
structure Place (σ : Type) where
  get : σ → Breaker
  set : Breaker → σ → σ
  now : σ → Span

/-- The state with its breaker changed. -/
def Place.modify {σ : Type} (p : Place σ) (f : Breaker → Breaker) (s : σ) : σ :=
  p.set (f (p.get s)) s

/-- Runs an operation if the breaker lets it, and tells the breaker how it ended. -/
def guarded {σ α : Type} (p : Place σ) (f : σ → Except Failure α × σ) (s : σ) :
    Except Failure α × σ :=
  let (admitted, b) := (p.get s).arrive (p.now s)
  let s := p.set b s
  if admitted then
    let start := p.now s
    let (r, s) := f s
    let took : Span := ⟨(p.now s).nanoseconds - start.nanoseconds⟩
    match r with
    | .ok a => (.ok a, p.modify (·.recordSuccess took) s)
    | .error e => (.error e, p.modify (·.recordFailure (p.now s) took) s)
  else (.error (.circuitOpen b.name), s)

/-! ## What becomes of a call -/

section

variable {σ α : Type} {p : Place σ} {f : σ → Except Failure α × σ} {s : σ} {b : Breaker}

/-- The breaker when a call has ended. -/
def record (b : Breaker) (now took : Span) : Except Failure α → Breaker
  | .ok _ => b.recordSuccess took
  | .error _ => b.recordFailure now took

/-- What the breaker rejects is not run. -/
theorem guarded_of_rejected (h : (p.get s).arrive (p.now s) = (false, b)) :
    guarded p f s = (.error (.circuitOpen b.name), p.set b s) := by
  unfold guarded
  simp only [h, Bool.false_eq_true, if_false]

/-- A call that is let through comes to what the operation comes to, and the breaker is told of it. -/
theorem guarded_of_admitted {r : Except Failure α} {t : σ}
    (h : (p.get s).arrive (p.now s) = (true, b)) (hf : f (p.set b s) = (r, t)) :
    guarded p f s = (r, p.modify (fun b' => record b' (p.now t)
      ⟨(p.now t).nanoseconds - (p.now (p.set b s)).nanoseconds⟩ r) t) := by
  unfold guarded
  simp only [h, if_true, hf]
  cases r with
  | ok a => rfl
  | error e => rfl

end

end WorkDispatch.Breaker
