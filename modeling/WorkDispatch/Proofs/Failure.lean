import WorkDispatch.Proofs.Retry.Run

/-!
# What a failure is classified by

A run of attempts wraps the failure that it ends with, and a run of runs wraps it again. Callers ask four
things of a failure (`Findings`): its code, whether to try again, whether the session is lost, whether the
connection is. `Within` says that a failure lies beneath wrappers, however many and of whichever kind.
Everything within a failure has the same findings, and there is one failure within it that wraps nothing
(`within_iff`): its root.

The wire keeps less. A failure is answered with a status, and who receives the status has its code and not
the cause; that is enough to tell whether the session is lost, which is read off the code, and not enough
for the other two: of an open breaker, whether to try again is answered in one way where it is met and in
another where its status arrives.

The last part is about the engine itself: what it wraps as final asks for no other attempt and what it
wraps as exhausted asks for one, so a run of runs stops and goes on with the runs that it is made of.
-/

set_option autoImplicit false

namespace WorkDispatch

namespace Failure

/-! ## Wrappers -/

/-- Whether a failure wraps another one. -/
def isWrapper : Failure → Bool
  | retriesExhausted .. | nonRetriable .. => true
  | _ => false

/-- Whether it wraps the last failure of a run that had no attempts left. -/
def isExhausted : Failure → Bool
  | retriesExhausted .. => true
  | _ => false

/-- A failure is another one, or lies beneath its wrappers. -/
inductive Within (f : Failure) : Failure → Prop
  | refl : Within f f
  | retriesExhausted (operation : String) (attempts : Nat) {g : Failure} (h : Within f g) :
    Within f (.retriesExhausted operation attempts g)
  | nonRetriable (operation : String) {g : Failure} (h : Within f g) :
    Within f (.nonRetriable operation g)

variable {f g : Failure}

/-- A failure that wraps none is its own root. -/
theorem root_of_not_wrapper (h : f.isWrapper = false) : f.root = f := by
  cases f with
  | retriesExhausted | nonRetriable => cases h
  | _ => rfl

/-- What lies beneath wrappers has the root of the whole. -/
theorem Within.root (h : Within f g) : f.root = g.root := by
  induction h with
  | refl => rfl
  | retriesExhausted _ _ _ ih | nonRetriable _ _ ih => exact ih

/-- A failure is its root, or wraps it. -/
theorem within_root (f : Failure) : Within f.root f := by
  induction f with
  | retriesExhausted operation attempts _ ih => exact .retriesExhausted operation attempts ih
  | nonRetriable operation _ ih => exact .nonRetriable operation ih
  | _ => exact .refl

/-- A root wraps nothing. -/
theorem isWrapper_root (f : Failure) : f.root.isWrapper = false := by
  induction f with
  | retriesExhausted _ _ _ ih | nonRetriable _ _ ih => exact ih
  | _ => rfl

/-- The root is the one failure within a failure that wraps nothing. -/
theorem within_iff : Within f g ∧ f.isWrapper = false ↔ f = g.root := by
  constructor
  · rintro ⟨h, bare⟩
    rw [← root_of_not_wrapper bare]
    exact h.root
  · rintro rfl
    exact ⟨within_root g, isWrapper_root g⟩

/-! ## Findings -/

/-- What callers ask of a failure. -/
structure Findings where
  code : StatusCode
  shouldRetry : Bool
  isAuthFailure : Bool
  isConnectionFailure : Bool
  deriving DecidableEq

def findings (f : Failure) : Findings :=
  ⟨f.code, f.shouldRetry, f.isAuthFailure, f.isConnectionFailure⟩

/-- A failure has the code of its root. -/
theorem code_root (f : Failure) : f.root.code = f.code := by
  induction f with
  | retriesExhausted _ _ _ ih | nonRetriable _ _ ih => exact ih
  | _ => rfl

/-- The root of a root is the root. -/
theorem root_root (f : Failure) : f.root.root = f.root := root_of_not_wrapper (isWrapper_root f)

/-- All that is found of a failure is found of its root. -/
theorem findings_root (f : Failure) : f.root.findings = f.findings := by
  unfold findings isAuthFailure shouldRetry isConnectionFailure
  rw [code_root, root_root]

/-- Wrapping changes nothing of what is found. -/
theorem Within.findings (h : Within f g) : f.findings = g.findings := by
  rw [← findings_root f, h.root, findings_root]

/-! ## The wire -/

/-- The wire carries the code. -/
theorem code_toStatus (f : Failure) : f.toStatus.code = f.code := by
  cases f with
  | _ => rfl

/-- Whether the session is lost is told by the code, which the wire keeps. -/
theorem isAuthFailure_received (f : Failure) : (rpc f.toStatus).isAuthFailure = f.isAuthFailure := by
  unfold isAuthFailure
  show (f.toStatus.code == .notFound || f.toStatus.code == .unauthenticated) = _
  rw [code_toStatus]

/-- An open breaker is not worth another attempt to who meets it, but the status that tells of it is. -/
example : (circuitOpen "connection").shouldRetry = false ∧
      (rpc (circuitOpen "connection").toStatus).shouldRetry = true := by
  decide

end Failure

/-! ## Runs -/

namespace Retry

open Failure

section

variable {σ α : Type} {operation : String} {r : Attempts σ α} {f : Failure}

/-- What a run of so many attempts fails with: a failure of one of them, wrapped, or its cancellation. -/
inductive Fails (r : Attempts σ α) (operation : String) (attempts : Nat) : Failure → Prop
  | nonRetriable {s s' : σ} {e : Failure} (failed : r.attempt s = (.error e, s'))
    (final : e.shouldRetry = false) : Fails r operation attempts (.nonRetriable operation e)
  | exhausted {s s' : σ} {e : Failure} (failed : r.attempt s = (.error e, s'))
    (retriable : e.shouldRetry = true) :
    Fails r operation attempts (.retriesExhausted operation attempts e)
  | cancelled (attempt : Nat) : Fails r operation attempts (cancelledAfter operation attempt)

/-- A run that ends with a failure fails as its end says. -/
theorem Ended.fails {left n : Nat} {s : σ} {q : Except Failure α × σ} (h : Ended r operation left n s q)
    (failed : q.1 = .error f) : Fails r operation (n + left) f := by
  induction h with
  | ok ok => cases failed
  | nonRetriable last final =>
    cases failed
    exact .nonRetriable last final
  | exhausted last retriable =>
    cases failed
    exact .exhausted last retriable
  | @cancelled left n =>
    cases failed
    exact .cancelled n
  | @again left n _ _ _ _ _ _ _ _ _ ih =>
    have rest := ih failed
    rwa [Nat.add_right_comm, Nat.add_assoc] at rest

/-- What a run fails with is a failure of one of its attempts, wrapped, or its cancellation. -/
theorem fails_run {maxAttempts : Nat} {s : σ} (failed : (run operation maxAttempts r s).1 = .error f) :
    Fails r operation (max 1 maxAttempts) f := by
  have fails := (ended_attemptsFrom r operation (maxAttempts - 1) 1 s).fails failed
  have all : 1 + (maxAttempts - 1) = max 1 maxAttempts := by omega
  rwa [all] at fails

/-- Of what a run fails with, only what it wraps as exhausted is worth another attempt. -/
theorem Fails.shouldRetry {attempts : Nat} (h : Fails r operation attempts f) :
    f.shouldRetry = f.isExhausted := by
  cases h with
  | nonRetriable _ final => exact final
  | exhausted _ retriable => exact retriable
  | cancelled => rfl

/-! ### Runs of runs -/

/-- What a run whose attempts are runs makes of the one that it makes at a state: it ends with what that one
holds to be final, and with its cancellation, and tries again after what that one has no attempts left for. -/
structure Agrees (operation : String) (r : Attempts σ α) (s : σ) : Prop where
  stops : ∀ e s', r.attempt s = (.error e, s') → e.isExhausted = false → ∀ left n,
    attemptsFrom operation r left n s = (.error (.nonRetriable operation e), s')
  spent : ∀ e s', r.attempt s = (.error e, s') → e.isExhausted = true → ∀ n,
    attemptsFrom operation r 0 n s = (.error (.retriesExhausted operation n e), s')
  goesOn : ∀ e s' s'', r.attempt s = (.error e, s') → e.isExhausted = true → ∀ left n,
    r.backoff n s' = (false, s'') →
      attemptsFrom operation r (left + 1) n s = attemptsFrom operation r left (n + 1) s''

/-- Whatever a run comes to, a run around it agrees. -/
theorem agrees_run (outer : String) (backoff : Nat → σ → Bool × σ) (maxAttempts : Nat) (s : σ) :
    Agrees outer ⟨run operation maxAttempts r, backoff⟩ s := by
  have verdict : ∀ e s', run operation maxAttempts r s = (.error e, s') →
      e.shouldRetry = e.isExhausted := fun e s' failed =>
    (fails_run (by rw [failed])).shouldRetry
  refine ⟨fun e s' failed final left n => ?_, fun e s' failed exhausted n => ?_,
    fun e s' s'' failed exhausted left n slept => ?_⟩
  · exact attemptsFrom_nonRetriable failed ((verdict e s' failed).trans final)
  · exact attemptsFrom_exhausted failed ((verdict e s' failed).trans exhausted)
  · exact attemptsFrom_again failed ((verdict e s' failed).trans exhausted) slept

end

/-! ## The whole -/

/-- Every finding of a failure is that of its root, and of all that lies between; the root wraps nothing.
The status of a failure has its code, that of a status is the status itself, and who receives it loses the
session if and only if the failure says so. What a run fails with is worth another attempt if and only if
the run had none left, so a run of runs stops and goes on with them. -/
theorem classified_by_root {σ α : Type} (operation outer : String) (maxAttempts : Nat)
    (r : Attempts σ α) (backoff : Nat → σ → Bool × σ) (s : σ) :
    (∀ f : Failure, f.root.findings = f.findings ∧
        (∀ g, Within g f → g.findings = f.findings) ∧
        ∀ g, Within g f ∧ g.isWrapper = false ↔ g = f.root) ∧
      (∀ f : Failure, f.toStatus.code = f.code ∧
        (Failure.rpc f.toStatus).isAuthFailure = f.isAuthFailure) ∧
      (∀ status, (Failure.rpc status).toStatus = status) ∧
      (∀ f, (run operation maxAttempts r s).1 = .error f →
        Fails r operation (max 1 maxAttempts) f ∧ f.shouldRetry = f.isExhausted) ∧
      Agrees outer ⟨run operation maxAttempts r, backoff⟩ s := by
  refine ⟨fun f => ⟨findings_root f, fun g => Within.findings, fun g => within_iff⟩,
    fun f => ⟨code_toStatus f, isAuthFailure_received f⟩, fun status => rfl, fun f failed => ?_,
    agrees_run outer backoff maxAttempts s⟩
  have fails := fails_run failed
  exact ⟨fails, fails.shouldRetry⟩

/-- Calls that are counted and find nobody; no backoff takes time. -/
def unheard : Attempts Nat Unit :=
  ⟨fun n => (.error (.rpc ⟨.unavailable, "down"⟩), n + 1), fun _ n => (false, n)⟩

/-- Three calls, wrapped once, and two such runs, wrapped twice. -/
theorem classified_by_root_twice :
    let inner := Failure.retriesExhausted "probe" 3 (.rpc ⟨.unavailable, "down"⟩)
    let twice := Failure.retriesExhausted "watch" 2 inner
    (run "probe" 3 unheard 0).1 = .error inner ∧ inner.shouldRetry = true ∧
      run "watch" 2 ⟨run "probe" 3 unheard, fun _ n => (false, n)⟩ 0 = (.error twice, 6) ∧
      twice.findings = (Failure.rpc ⟨.unavailable, "down"⟩).findings := by
  intro inner twice
  obtain ⟨byRoot, -, -, runs, agrees⟩ :=
    classified_by_root "probe" "watch" 3 unheard (fun _ n => (false, n)) 0
  have failed : (run "probe" 3 unheard 0).1 = .error inner := rfl
  have after : run "probe" 3 unheard 0 = (.error inner, 3) := rfl
  have again : run "probe" 3 unheard 3 = (.error inner, 6) := rfl
  have nested : run "watch" 2 ⟨run "probe" 3 unheard, fun _ n => (false, n)⟩ 0 = (.error twice, 6) :=
    (agrees.goesOn inner 3 3 after rfl 0 1 rfl).trans (attemptsFrom_exhausted again rfl)
  exact ⟨failed, (runs inner failed).2, nested, (byRoot twice).1.symm⟩

end Retry

end WorkDispatch
