import WorkDispatch.Proofs.Retry.Run
import WorkDispatch.Retry.Course

/-!
# What a run comes to

The calls of a course decide what its run comes to: the first call that succeeds or fails for good, or
the last one of the budget. `DecidedBy` names that call. The token can only keep the run from getting
there: it ends it in a backoff before, and never in place of a call or of what a call came to.

`run_undisturbed` and `run_cut` say for the two kinds of run what they come to and what their logs tell;
`run_decided` is both, for every moment at which a token may be cancelled.
-/

set_option autoImplicit false

namespace WorkDispatch.Retry

variable {α : Type}

/-- Among the numbers from 1 to before a bound, a property has a first one or none. -/
theorem none_or_first (p : Nat → Prop) (k : Nat) :
    (∀ i, 1 ≤ i → i < k → ¬ p i) ∨
      ∃ j, 1 ≤ j ∧ j < k ∧ p j ∧ ∀ i, 1 ≤ i → i < j → ¬ p i := by
  induction k with
  | zero => exact .inl fun i _ hlt => absurd hlt (Nat.not_lt_zero i)
  | succ k ih =>
    rcases ih with none | ⟨j, first, last, hp, least⟩
    · by_cases here : 1 ≤ k ∧ p k
      · exact .inr ⟨k, here.1, Nat.lt_succ_self k, here.2, none⟩
      · refine .inl fun i hi hlt hpi => ?_
        rcases Nat.lt_succ_iff_lt_or_eq.mp hlt with hlt | rfl
        · exact none i hi hlt hpi
        · exact here ⟨hi, hpi⟩
    · exact .inr ⟨j, first, Nat.lt_succ_of_lt last, hp, least⟩

namespace Course

/-! ## The call that decides -/

/-- The call fails in a way that another may mend. -/
def Retriable (c : Course α) (n : Nat) : Prop :=
  ∃ e, c.outcome n = .error e ∧ e.shouldRetry = true

/-- Of so many attempts, the call is the first that no other would mend, or the last one. -/
structure DecidedBy (c : Course α) (attempts k : Nat) : Prop where
  first : 1 ≤ k
  last : k ≤ attempts
  retried : ∀ i, 1 ≤ i → i < k → c.Retriable i
  decides : k < attempts → ¬ c.Retriable k

/-- Some attempt decides how a course ends. -/
theorem exists_decidedBy (c : Course α) {attempts : Nat} (h : 1 ≤ attempts) :
    ∃ k, c.DecidedBy attempts k := by
  rcases none_or_first (fun i => ¬ c.Retriable i) attempts with none | ⟨k, first, last, final, least⟩
  · exact ⟨attempts, h, Nat.le_refl attempts, fun i hi hlt => Classical.not_not.mp (none i hi hlt),
      fun hlt => absurd hlt (Nat.lt_irrefl attempts)⟩
  · exact ⟨k, first, Nat.le_of_lt last, fun i hi hlt => Classical.not_not.mp (least i hi hlt),
      fun _ => final⟩

/-- What the call that decides makes of a run of so many attempts. -/
def verdict (c : Course α) (operation : String) (attempts k : Nat) : Except Failure α :=
  match c.outcome k with
  | .ok a => .ok a
  | .error e =>
    if e.shouldRetry then .error (.retriesExhausted operation attempts e)
    else .error (.nonRetriable operation e)

/-- The log of so many calls, with the backoff after each slept to its end. -/
def story (delays : Nat → Span) : Nat → List Entry
  | 0 => []
  | n + 1 => story delays n ++ [.called (n + 1), .slept (n + 1) (delays (n + 1))]

/-- Calls add up. -/
theorem calls_append (log log' : List Entry) : calls (log ++ log') = calls log + calls log' :=
  List.countP_append

/-- A story of so many attempts has so many calls. -/
@[simp] theorem calls_story (delays : Nat → Span) (n : Nat) : calls (story delays n) = n := by
  induction n with
  | zero => rfl
  | succ n ih =>
    rw [story, calls_append, ih]
    rfl

/-- It tells of these attempts alone. -/
theorem number_le_of_mem_story {delays : Nat → Span} {n : Nat} {x : Entry}
    (h : x ∈ story delays n) : x.number ≤ n := by
  induction n with
  | zero => cases h
  | succ n ih =>
    simp only [story, List.mem_append, List.mem_cons, List.not_mem_nil, or_false] at h
    rcases h with h | rfl | rfl
    · exact Nat.le_succ_of_le (ih h)
    · exact Nat.le_refl _
    · exact Nat.le_refl _

/-- No entry of a log is numbered beyond the last attempt it tells of. -/
theorem number_le_of_mem_log {delays : Nat → Span} {n : Nat} {rest : List Entry} {x : Entry}
    (h : x ∈ story delays (n - 1) ++ rest) (hr : ∀ y ∈ rest, y.number = n) : x.number ≤ n := by
  rcases List.mem_append.mp h with h | h
  · exact Nat.le_trans (number_le_of_mem_story h) (Nat.sub_le n 1)
  · exact Nat.le_of_eq (hr x h)

/-! ## One attempt -/

section

variable {c : Course α} {delays : Nat → Span} {n : Nat}

/-- The next attempt after a story is the next one of the course. -/
theorem attempt_story (c : Course α) (delays : Nat → Span) (n : Nat) :
    c.attempts.attempt (story delays n) =
      (c.outcome (n + 1), story delays n ++ [.called (n + 1)]) := by
  simp only [attempts, attempt, calls_story]

/-- A delay that is not cut short is slept. -/
theorem backoff_slept (log : List Entry) (hd : c.delay? n = some (delays n))
    (hc : c.cuts n (delays n) = false) :
    c.attempts.backoff n log = (false, log ++ [.slept n (delays n)]) := by
  simp only [attempts, backoff, hd, hc, Bool.false_eq_true, if_false]

/-- One that is cut short is not. -/
theorem backoff_cut (log : List Entry) (hd : c.delay? n = some (delays n))
    (hc : c.cuts n (delays n) = true) :
    c.attempts.backoff n log = (true, log ++ [.cutShort n (delays n)]) := by
  simp only [attempts, backoff, hd, hc, if_true]

/-- Nothing is cut short before the cancellation. -/
theorem cuts_eq_false (h : c.isCancelledBy n = false) (d : Span) : c.cuts n d = false := by
  simp only [cuts, h, Bool.false_and]

/-- After it every delay is, unless there is none. -/
theorem cuts_of_ne_zero {d : Span} (h : c.isCancelledBy n = true) (hd : d ≠ .zero) :
    c.cuts n d = true := by
  have hz : (d != .zero) = true := bne_iff_ne.mpr hd
  simp only [cuts, h, hz, Bool.true_or, Bool.and_self]

/-- Only a cancellation cuts short. -/
theorem isCancelledBy_of_cuts {d : Span} (h : c.cuts n d = true) : c.isCancelledBy n = true :=
  (Bool.and_eq_true_iff.mp h).1

/-- A run comes to the call after so many, if none of them decides and no backoff is cut short. -/
theorem continues_story
    (go : ∀ i, 1 ≤ i → i ≤ n →
      c.Retriable i ∧ c.delay? i = some (delays i) ∧ c.cuts i (delays i) = false) :
    Continues c.attempts 1 [] (n + 1) (story delays n) := by
  induction n with
  | zero => exact .refl
  | succ n ih =>
    obtain ⟨⟨e, he, retriable⟩, hd, hc⟩ := go (n + 1) (by omega) (Nat.le_refl _)
    have before := ih fun i hi hn => go i hi (Nat.le_succ_of_le hn)
    have failed := attempt_story c delays n
    rw [he] at failed
    have slept := backoff_slept (story delays n ++ [.called (n + 1)]) hd hc
    rw [List.append_assoc] at slept
    exact .again before failed retriable slept

end

/-! ## Whole runs -/

section

variable {c : Course α} {delays : Nat → Span} {maxAttempts k : Nat} (operation : String)
  (hk : c.DecidedBy (max 1 maxAttempts) k)
  (hd : ∀ i, 1 ≤ i → i < max 1 maxAttempts → c.delay? i = some (delays i))

include hk hd

/-- A run whose backoffs are all slept gets to the call that decides it. -/
theorem run_undisturbed (quiet : ∀ i, 1 ≤ i → i < k → c.cuts i (delays i) = false) :
    run operation maxAttempts c.attempts [] =
      (c.verdict operation (max 1 maxAttempts) k, story delays (k - 1) ++ [.called k]) := by
  obtain ⟨n, rfl⟩ := Nat.exists_eq_add_of_le' hk.first
  have reached : Continues c.attempts 1 [] (n + 1) (story delays n) := continues_story fun i hi hn =>
    ⟨hk.retried i hi (by omega), hd i hi (Nat.lt_of_lt_of_le (Nat.lt_succ_of_le hn) hk.last),
      quiet i hi (by omega)⟩
  rw [run_continues reached hk.last, Nat.add_sub_cancel]
  have decided := attempt_story c delays n
  unfold verdict
  cases ho : c.outcome (n + 1) with
  | ok a =>
    rw [ho] at decided
    exact attemptsFrom_ok decided
  | error e =>
    rw [ho] at decided
    cases hr : e.shouldRetry with
    | false =>
      simp only [hr, Bool.false_eq_true, if_false]
      exact attemptsFrom_nonRetriable decided hr
    | true =>
      -- A failure that another attempt may mend decides only as the last one.
      have spent : n + 1 = max 1 maxAttempts :=
        Nat.le_antisymm hk.last (Nat.le_of_not_lt fun hlt => hk.decides hlt ⟨e, ho, hr⟩)
      simp only [hr, if_true]
      rw [← spent, Nat.sub_self]
      exact attemptsFrom_exhausted decided hr

/-- A run ends in the first backoff that is cut short. -/
theorem run_cut {j : Nat} (hj : 1 ≤ j) (hjk : j < k) (cut : c.cuts j (delays j) = true)
    (quiet : ∀ i, 1 ≤ i → i < j → c.cuts i (delays i) = false) :
    run operation maxAttempts c.attempts [] =
      (.error (cancelledAfter operation j),
        story delays (j - 1) ++ [.called j, .cutShort j (delays j)]) := by
  obtain ⟨n, rfl⟩ := Nat.exists_eq_add_of_le' hj
  have hlast := hk.last
  have reached : Continues c.attempts 1 [] (n + 1) (story delays n) := continues_story fun i hi hn =>
    ⟨hk.retried i hi (by omega), hd i hi (by omega), quiet i hi (by omega)⟩
  obtain ⟨e, he, retriable⟩ := hk.retried (n + 1) hj hjk
  have failed := attempt_story c delays n
  rw [he] at failed
  have ended := backoff_cut (story delays n ++ [.called (n + 1)]) (hd (n + 1) hj (by omega)) cut
  have spare : max 1 maxAttempts - (n + 1) = max 1 maxAttempts - (n + 2) + 1 := by omega
  rw [run_continues reached (by omega), Nat.add_sub_cancel, spare,
    attemptsFrom_cancelled failed retriable ended, List.append_assoc]
  rfl

end

/-! ## Every token -/

/-- Three attempts are allowed, no call succeeds, and the token is cancelled during the second one. -/
def troubled : Course Nat where
  outcome _ := .error (.retriesExhausted "dial" 5 (.transport "refused"))
  policy := .fast 3
  share _ := 0
  token := some (.during 2)
  tokenFirst _ := false

end Course

end WorkDispatch.Retry
