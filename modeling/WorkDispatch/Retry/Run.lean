import WorkDispatch.Retry.Policy
import WorkDispatch.Failure

/-!
Trying an operation again. An attempt acts on a state; between two attempts there is a backoff, which
acts on it too and says whether the run was cancelled in it. A run ends with the first success, with
a failure that another attempt would not mend, with the last attempt of its budget, or in a backoff.
-/

set_option autoImplicit false

namespace WorkDispatch.Retry

/-- What a run acts on: the state, an attempt, and the backoff after an attempt of a number, which
says whether the run was cancelled in it. -/
structure Attempts (σ α : Type) where
  attempt : σ → Except Failure α × σ
  backoff : Nat → σ → Bool × σ

/-- The failure of a run that was cancelled in the backoff after an attempt. -/
def cancelledAfter (operation : String) (attempt : Nat) : Failure :=
  .cancelled (operation ++ " cancelled during backoff after " ++ toString attempt ++ " attempts")

/-- The attempts from one of a number on, with so many left after it. -/
def attemptsFrom {σ α : Type} (operation : String) (r : Attempts σ α) :
    Nat → Nat → σ → Except Failure α × σ
  | left, n, s =>
    match r.attempt s with
    | (.ok a, s) => (.ok a, s)
    | (.error e, s) =>
      if e.shouldRetry then
        match left with
        | 0 => (.error (.retriesExhausted operation n e), s)
        | left + 1 =>
          match r.backoff n s with
          | (true, s) => (.error (cancelledAfter operation n), s)
          | (false, s) => attemptsFrom operation r left (n + 1) s
      else (.error (.nonRetriable operation e), s)

/-- Tries up to so many times, and once at least. -/
def run {σ α : Type} (operation : String) (maxAttempts : Nat) (r : Attempts σ α) (s : σ) :
    Except Failure α × σ :=
  attemptsFrom operation r (maxAttempts - 1) 1 s

end WorkDispatch.Retry
