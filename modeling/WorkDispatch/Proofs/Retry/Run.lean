import WorkDispatch.Retry.Run

/-!
# How a run of attempts goes

A run is its attempts one after the other, as long as each fails in a way that another may mend and no
backoff is cut short. `Continues` says that a run comes from one attempt to a later one in this way, and
`attemptsFrom_continues` that nothing else is left of the attempts between. An attempt ends the run in
one of four ways, and there is a lemma for each. `Ended` collects them, so that what holds of every run is
shown by induction on it, with one case for each way.

What attempts and backoffs do is not said here: the state is of any kind, so the lemmas serve an
operation, an operation behind a breaker, and an operation with a log alike.
-/

set_option autoImplicit false

namespace WorkDispatch.Retry

variable {σ α : Type} {operation : String} {r : Attempts σ α} {n left : Nat} {s s' : σ} {e : Failure}

/-! ## How an attempt ends a run -/

/-- An attempt that succeeds is the last. -/
theorem attemptsFrom_ok {a : α} (ok : r.attempt s = (.ok a, s')) :
    attemptsFrom operation r left n s = (.ok a, s') := by
  unfold attemptsFrom
  simp only [ok]

/-- So is one that fails for good. -/
theorem attemptsFrom_nonRetriable (failed : r.attempt s = (.error e, s'))
    (final : e.shouldRetry = false) :
    attemptsFrom operation r left n s = (.error (.nonRetriable operation e), s') := by
  unfold attemptsFrom
  simp only [failed, final, Bool.false_eq_true, if_false]

/-- So is the last of those that are left. -/
theorem attemptsFrom_exhausted (failed : r.attempt s = (.error e, s'))
    (retriable : e.shouldRetry = true) :
    attemptsFrom operation r 0 n s = (.error (.retriesExhausted operation n e), s') := by
  unfold attemptsFrom
  simp only [failed, retriable, if_true]

/-- So is one whose delay is cut short. -/
theorem attemptsFrom_cancelled {s'' : σ} (failed : r.attempt s = (.error e, s'))
    (retriable : e.shouldRetry = true) (cut : r.backoff n s' = (true, s'')) :
    attemptsFrom operation r (left + 1) n s = (.error (cancelledAfter operation n), s'') := by
  unfold attemptsFrom
  simp only [failed, retriable, if_true, cut]

/-! ## How a run goes on -/

/-- Every other is followed by the next. -/
theorem attemptsFrom_again {s'' : σ} (failed : r.attempt s = (.error e, s'))
    (retriable : e.shouldRetry = true) (slept : r.backoff n s' = (false, s'')) :
    attemptsFrom operation r (left + 1) n s = attemptsFrom operation r left (n + 1) s'' := by
  rw [attemptsFrom]
  simp only [failed, retriable, if_true, slept]

/-- A run comes from before one attempt to before another: every attempt between them fails in a way
that another may mend, and every backoff is slept. -/
inductive Continues (r : Attempts σ α) (n : Nat) (s : σ) : Nat → σ → Prop
  | refl : Continues r n s n s
  | again {m : Nat} {t t' t'' : σ} {e : Failure} (before : Continues r n s m t)
    (failed : r.attempt t = (.error e, t')) (retriable : e.shouldRetry = true)
    (slept : r.backoff m t' = (false, t'')) : Continues r n s (m + 1) t''

/-- The attempts are numbered upwards. -/
theorem Continues.le {m : Nat} {t : σ} (h : Continues r n s m t) : n ≤ m := by
  induction h with
  | refl => exact Nat.le_refl n
  | again before failed retriable slept ih => exact Nat.le_succ_of_le ih

/-- Of a run that continues, only what it comes to matters. -/
theorem attemptsFrom_continues {m : Nat} {t : σ} (h : Continues r n s m t) :
    ∀ left, attemptsFrom operation r (left + (m - n)) n s = attemptsFrom operation r left m t := by
  induction h with
  | refl =>
    intro left
    rw [Nat.sub_self, Nat.add_zero]
  | @again m t t' t'' e before failed retriable slept ih =>
    intro left
    have hle := before.le
    have more : left + (m + 1 - n) = (left + 1) + (m - n) := by omega
    rw [more, ih (left + 1), attemptsFrom_again failed retriable slept]

/-- A run with an attempt left is where it has come to, with the attempts that are left then. -/
theorem run_continues {m maxAttempts : Nat} {t : σ} (h : Continues r 1 s m t)
    (hm : m ≤ max 1 maxAttempts) :
    run operation maxAttempts r s = attemptsFrom operation r (max 1 maxAttempts - m) m t := by
  have hle := h.le
  have spare : maxAttempts - 1 = (max 1 maxAttempts - m) + (m - 1) := by omega
  unfold run
  rw [spare, attemptsFrom_continues h]

/-! ## All that a run can be -/

/-- What the attempts from one of a number on come to, with so many left after it: one of the four ends,
or what the next attempt comes to. -/
inductive Ended (r : Attempts σ α) (operation : String) : Nat → Nat → σ → Except Failure α × σ → Prop
  | ok {left n : Nat} {s s' : σ} {a : α} (ok : r.attempt s = (.ok a, s')) :
    Ended r operation left n s (.ok a, s')
  | nonRetriable {left n : Nat} {s s' : σ} {e : Failure} (failed : r.attempt s = (.error e, s'))
    (final : e.shouldRetry = false) : Ended r operation left n s (.error (.nonRetriable operation e), s')
  | exhausted {n : Nat} {s s' : σ} {e : Failure} (failed : r.attempt s = (.error e, s'))
    (retriable : e.shouldRetry = true) :
    Ended r operation 0 n s (.error (.retriesExhausted operation n e), s')
  | cancelled {left n : Nat} {s s' s'' : σ} {e : Failure} (failed : r.attempt s = (.error e, s'))
    (retriable : e.shouldRetry = true) (cut : r.backoff n s' = (true, s'')) :
    Ended r operation (left + 1) n s (.error (cancelledAfter operation n), s'')
  | again {left n : Nat} {s s' s'' : σ} {e : Failure} {q : Except Failure α × σ}
    (failed : r.attempt s = (.error e, s')) (retriable : e.shouldRetry = true)
    (slept : r.backoff n s' = (false, s'')) (rest : Ended r operation left (n + 1) s'' q) :
    Ended r operation (left + 1) n s q

/-- There is nothing else that attempts come to. -/
theorem ended_attemptsFrom (r : Attempts σ α) (operation : String) :
    ∀ (left n : Nat) (s : σ), Ended r operation left n s (attemptsFrom operation r left n s)
  | left, n, s => by
    rcases h : r.attempt s with ⟨o, s'⟩
    cases o with
    | ok a =>
      rw [attemptsFrom_ok h]
      exact .ok h
    | error e =>
      cases retriable : e.shouldRetry with
      | false =>
        rw [attemptsFrom_nonRetriable h retriable]
        exact .nonRetriable h retriable
      | true =>
        cases left with
        | zero =>
          rw [attemptsFrom_exhausted h retriable]
          exact .exhausted h retriable
        | succ left =>
          rcases h' : r.backoff n s' with ⟨cut, s''⟩
          cases cut with
          | true =>
            rw [attemptsFrom_cancelled h retriable h']
            exact .cancelled h retriable h'
          | false =>
            rw [attemptsFrom_again h retriable h']
            exact .again h retriable h' (ended_attemptsFrom r operation left (n + 1) s'')

/-- What every attempt and every backoff keeps, a run keeps. -/
theorem Ended.keeps {p : σ → Prop} {q : Except Failure α × σ} (h : Ended r operation left n s q)
    (ha : ∀ s, p s → p (r.attempt s).2) (hb : ∀ n s, p s → p (r.backoff n s).2) (hp : p s) : p q.2 := by
  induction h with
  | ok ok =>
    have kept := ha _ hp
    rwa [ok] at kept
  | nonRetriable failed final =>
    have kept := ha _ hp
    rwa [failed] at kept
  | exhausted failed retriable =>
    have kept := ha _ hp
    rwa [failed] at kept
  | @cancelled left n s s' s'' e failed retriable cut =>
    have kept := ha s hp
    rw [failed] at kept
    have kept := hb n s' kept
    rwa [cut] at kept
  | @again left n s s' s'' e q failed retriable slept rest ih =>
    have kept := ha s hp
    rw [failed] at kept
    have kept := hb n s' kept
    rw [slept] at kept
    exact ih kept

/-! ## The attempts of a run -/

/-- The states before the attempts that a run makes, the first attempt first. -/
def starts (r : Attempts σ α) : Nat → Nat → σ → List σ
  | left, n, s =>
    s ::
      match r.attempt s with
      | (.ok _, _) => []
      | (.error e, s) =>
        if e.shouldRetry then
          match left with
          | 0 => []
          | left + 1 =>
            match r.backoff n s with
            | (true, _) => []
            | (false, s) => starts r left (n + 1) s
        else []

/-- What a run comes to after its last attempt: what that one comes to, wrapped when it failed, or the
run is cancelled in the backoff. -/
inductive Closes (r : Attempts σ α) (operation : String) (t : σ) : Except Failure α × σ → Prop
  | ok {a : α} {t' : σ} (ok : r.attempt t = (.ok a, t')) : Closes r operation t (.ok a, t')
  | failed {e f : Failure} {t' : σ} (failed : r.attempt t = (.error e, t')) (same : f.root = e.root) :
    Closes r operation t (.error f, t')
  | cancelled {n : Nat} {e : Failure} {t' t'' : σ} (failed : r.attempt t = (.error e, t'))
    (cut : r.backoff n t' = (true, t'')) : Closes r operation t (.error (cancelledAfter operation n), t'')

/-- No attempt starts after a success. -/
theorem starts_ok {a : α} (ok : r.attempt s = (.ok a, s')) : starts r left n s = [s] := by
  unfold starts
  simp only [ok]

/-- None starts after a failure for good. -/
theorem starts_nonRetriable (failed : r.attempt s = (.error e, s')) (final : e.shouldRetry = false) :
    starts r left n s = [s] := by
  unfold starts
  simp only [failed, final, Bool.false_eq_true, if_false]

/-- None starts when none is left. -/
theorem starts_exhausted (failed : r.attempt s = (.error e, s')) (retriable : e.shouldRetry = true) :
    starts r 0 n s = [s] := by
  unfold starts
  simp only [failed, retriable, if_true]

/-- None starts after a delay that was cut short. -/
theorem starts_cancelled {s'' : σ} (failed : r.attempt s = (.error e, s'))
    (retriable : e.shouldRetry = true) (cut : r.backoff n s' = (true, s'')) :
    starts r (left + 1) n s = [s] := by
  unfold starts
  simp only [failed, retriable, if_true, cut]

/-- Otherwise the next one does. -/
theorem starts_again {s'' : σ} (failed : r.attempt s = (.error e, s'))
    (retriable : e.shouldRetry = true) (slept : r.backoff n s' = (false, s'')) :
    starts r (left + 1) n s = s :: starts r left (n + 1) s'' := by
  rw [starts]
  simp only [failed, retriable, if_true, slept]

variable {q : Except Failure α × σ}

/-- A run makes no attempt beyond its budget. -/
theorem Ended.length_starts (h : Ended r operation left n s q) :
    (starts r left n s).length ≤ left + 1 := by
  induction h with
  | ok ok => simp only [starts_ok ok, List.length_singleton, Nat.le_add_left]
  | nonRetriable failed final =>
    simp only [starts_nonRetriable failed final, List.length_singleton, Nat.le_add_left]
  | exhausted failed retriable =>
    simp only [starts_exhausted failed retriable, List.length_singleton, Nat.le_add_left]
  | cancelled failed retriable cut =>
    simp only [starts_cancelled failed retriable cut, List.length_singleton, Nat.le_add_left]
  | again failed retriable slept rest ih =>
    rw [starts_again failed retriable slept, List.length_cons]
    exact Nat.succ_le_succ ih

/-- A run comes to what its last attempt comes to. -/
theorem Ended.closes (h : Ended r operation left n s q) :
    ∃ t, (starts r left n s).getLast? = some t ∧ Closes r operation t q := by
  induction h with
  | @ok _ _ s _ _ ok => exact ⟨s, by rw [starts_ok ok]; rfl, .ok ok⟩
  | @nonRetriable _ _ s _ _ failed final =>
    exact ⟨s, by rw [starts_nonRetriable failed final]; rfl, .failed failed rfl⟩
  | @exhausted _ s _ _ failed retriable =>
    exact ⟨s, by rw [starts_exhausted failed retriable]; rfl, .failed failed rfl⟩
  | @cancelled _ _ s _ _ _ failed retriable cut =>
    exact ⟨s, by rw [starts_cancelled failed retriable cut]; rfl, .cancelled failed cut⟩
  | again failed retriable slept rest ih =>
    obtain ⟨t, last, closes⟩ := ih
    refine ⟨t, ?_, closes⟩
    rw [starts_again failed retriable slept, List.getLast?_cons, last]
    rfl

/-- A run that succeeds does so with its last attempt. -/
theorem Closes.of_ok {t : σ} {a : α} (h : Closes r operation t q) (ok : q.1 = .ok a) :
    r.attempt t = q := by
  cases h with
  | ok last => exact last
  | failed | cancelled => cases ok

/-- One that fails does so with its last attempt, or was cancelled. -/
theorem Closes.of_error {t : σ} (h : Closes r operation t q) (failed : q.1 = .error e) :
    (∃ e', r.attempt t = (.error e', q.2) ∧ e.root = e'.root) ∨ ∃ n, e = cancelledAfter operation n := by
  cases h with
  | ok => cases failed
  | failed last same =>
    cases failed
    exact .inl ⟨_, last, same⟩
  | @cancelled n =>
    cases failed
    exact .inr ⟨n, rfl⟩

/-- What every attempt and every backoff keeps holds before every attempt. -/
theorem Ended.forall_starts {p : σ → Prop} (h : Ended r operation left n s q)
    (ha : ∀ s, p s → p (r.attempt s).2) (hb : ∀ n s, p s → p (r.backoff n s).2) (hp : p s) :
    ∀ t ∈ starts r left n s, p t := by
  induction h with
  | ok ok => exact starts_ok ok ▸ List.forall_mem_singleton.mpr hp
  | nonRetriable failed final =>
    exact starts_nonRetriable failed final ▸ List.forall_mem_singleton.mpr hp
  | exhausted failed retriable =>
    exact starts_exhausted failed retriable ▸ List.forall_mem_singleton.mpr hp
  | cancelled failed retriable cut =>
    exact starts_cancelled failed retriable cut ▸ List.forall_mem_singleton.mpr hp
  | @again left n s s' s'' e q failed retriable slept rest ih =>
    rw [starts_again failed retriable slept, List.forall_mem_cons]
    have kept := ha s hp
    rw [failed] at kept
    have kept := hb n s' kept
    rw [slept] at kept
    exact ⟨hp, ih kept⟩

/-- What an attempt raises by one at most and a backoff does not change, a run raises by no more than the
number of its attempts. -/
theorem Ended.count_le {count : σ → Nat} (h : Ended r operation left n s q)
    (ha : ∀ t ∈ starts r left n s, count (r.attempt t).2 ≤ count t + 1)
    (hb : ∀ n s, count (r.backoff n s).2 = count s) :
    count q.2 ≤ count s + (starts r left n s).length := by
  induction h with
  | ok ok =>
    rw [starts_ok ok] at ha ⊢
    simpa only [ok, List.length_singleton] using ha _ (List.mem_singleton_self _)
  | nonRetriable failed final =>
    rw [starts_nonRetriable failed final] at ha ⊢
    simpa only [failed, List.length_singleton] using ha _ (List.mem_singleton_self _)
  | exhausted failed retriable =>
    rw [starts_exhausted failed retriable] at ha ⊢
    simpa only [failed, List.length_singleton] using ha _ (List.mem_singleton_self _)
  | @cancelled left n s s' s'' e failed retriable cut =>
    rw [starts_cancelled failed retriable cut] at ha ⊢
    have same : count s'' = count s' := by simpa only [cut] using hb n s'
    rw [same]
    simpa only [failed, List.length_singleton] using ha _ (List.mem_singleton_self _)
  | @again left n s s' s'' e q failed retriable slept rest ih =>
    rw [starts_again failed retriable slept] at ha ⊢
    have one : count s' ≤ count s + 1 := by simpa only [failed] using ha s List.mem_cons_self
    have same : count s'' = count s' := by simpa only [slept] using hb n s'
    have more := ih fun t ht => ha t (List.mem_cons_of_mem s ht)
    rw [List.length_cons]
    omega

end WorkDispatch.Retry
