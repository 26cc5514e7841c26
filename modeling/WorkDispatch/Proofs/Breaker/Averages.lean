import Mathlib.Algebra.Ring.Nat
import WorkDispatch.Proofs.Breaker.Probes
import WorkDispatch.Proofs.Breaker.Transitions

/-!
# How long a call takes on average

A breaker adds up how long the calls took whose outcome it recorded, and counts them in 64 bits. The
mean of their lengths is the one divided by the other. What is told as the average is divided by the
number of calls cut to 32 bits, and whether there were calls at all is asked before the cut.

`averageDuration?_eq` is what comes of it. Below the 2^32nd call the average is the mean. From there on
it is the time that all the calls took, divided by the number of those since the last multiple of 2^32,
and there is none when no call came since. `average_right_iff` says for which counts the average is the
mean all the same, and that it is never below it. It holds of all counts, wherever they are from: of
those that a breaker has made, where the mean is that of the lengths in its history (`lengths`), as of
those that were written down and read again.
-/

set_option autoImplicit false

namespace WorkDispatch.Breaker

/-! ## The mean and what is told of it -/

/-- What is left of a number that was cut divides into the same quotient only where both are zero: it is
less than half of the number. -/
theorem div_mod_eq_div_iff {d n w : Nat} (positive : 0 < w) (many : w ≤ n) (rest : 0 < n % w) :
    d / (n % w) = d / n ↔ d < n % w := by
  have below : n % w < w := Nat.mod_lt n positive
  have beyond : n % w ≤ n - w := by
    rw [Nat.mod_eq_sub_mod many]
    exact Nat.mod_le _ _
  constructor
  · intro same
    -- There are more than twice as many, so the quotient by all is at most half of the other one.
    refine Nat.lt_of_not_le fun enough => Nat.ne_of_gt ?_ same
    calc d / n ≤ d / (n % w * 2) := Nat.div_le_div_left (by omega) (by omega)
      _ = d / (n % w) / 2 := (Nat.div_div_eq_div_mul d (n % w) 2).symm
      _ < d / (n % w) := Nat.div_lt_self (Nat.div_pos enough rest) (by decide)
  · intro few
    rw [Nat.div_eq_of_lt few, Nat.div_eq_of_lt (by omega)]

namespace Metrics

/-- How long a call took on average, in whole nanoseconds: no time at all when there was no call. -/
def meanDuration (m : Metrics) : Span :=
  if m.totalCalls = 0 then .zero else ⟨m.totalDuration.nanoseconds / m.totalCalls⟩

/-- The mean is the total over the number of calls, in whole nanoseconds. -/
theorem meanDuration_nanoseconds (m : Metrics) :
    m.meanDuration.nanoseconds = m.totalDuration.nanoseconds / m.totalCalls := by
  unfold meanDuration
  split
  · next none_counted =>
    rw [none_counted, Nat.div_zero]
    rfl
  · rfl

/-- The total is divided by the low bits of the number of calls, of which nothing may be left. -/
theorem averageDuration?_eq (m : Metrics) :
    m.averageDuration? =
      if m.totalCalls < Bits.count32 then some m.meanDuration
      else if Bits.count32 ∣ m.totalCalls then none
      else some ⟨m.totalDuration.nanoseconds / (m.totalCalls % Bits.count32)⟩ := by
  unfold averageDuration? meanDuration
  by_cases few : m.totalCalls < Bits.count32
  · simp only [if_pos few, Nat.mod_eq_of_lt few]
    split
    · rfl
    · rfl
  · have some_counted : m.totalCalls ≠ 0 := fun none_counted => few (none_counted ▸ by decide)
    simp only [if_neg few, if_neg some_counted, Nat.dvd_iff_mod_eq_zero]

/-- There is no average exactly when calls were made and the low bits of their number are zero. -/
theorem averageDuration?_eq_none_iff (m : Metrics) :
    m.averageDuration? = none ↔ 0 < m.totalCalls ∧ Bits.count32 ∣ m.totalCalls := by
  rw [averageDuration?_eq]
  split
  · next few =>
    have apart : ¬ (0 < m.totalCalls ∧ Bits.count32 ∣ m.totalCalls) := by
      rintro ⟨positive, whole⟩
      exact Nat.not_le.mpr few (Nat.le_of_dvd positive whole)
    simp only [reduceCtorEq, apart]
  · next many =>
    have positive : 0 < m.totalCalls := Nat.lt_of_lt_of_le (by decide) (Nat.le_of_not_lt many)
    split
    · next whole => simp only [whole, positive, and_self]
    · next rest => simp only [reduceCtorEq, rest, and_false]

/-- The average is the mean exactly when the number of calls fits, or when both are zero. -/
theorem averageDuration?_eq_mean_iff (m : Metrics) :
    m.averageDuration? = some m.meanDuration ↔
      m.totalCalls < Bits.count32 ∨ m.totalDuration.nanoseconds < m.totalCalls % Bits.count32 := by
  rw [averageDuration?_eq]
  split
  · next few => simp only [few, true_or]
  · next many =>
    have many : Bits.count32 ≤ m.totalCalls := Nat.le_of_not_lt many
    split
    · next whole =>
      simp only [reduceCtorEq, Nat.mod_eq_zero_of_dvd whole, Nat.not_lt.mpr many, Nat.not_lt_zero,
        or_self]
    · next rest =>
      have rest : 0 < m.totalCalls % Bits.count32 := Nat.emod_pos_of_not_dvd rest
      have same : some ⟨m.totalDuration.nanoseconds / (m.totalCalls % Bits.count32)⟩ =
          some m.meanDuration ↔
            m.totalDuration.nanoseconds / (m.totalCalls % Bits.count32) =
              m.totalDuration.nanoseconds / m.totalCalls := by
        rw [Option.some_inj, ← meanDuration_nanoseconds]
        exact ⟨congrArg Span.nanoseconds, congrArg Span.mk⟩
      rw [same, div_mod_eq_div_iff (by decide) many rest]
      simp only [Nat.not_lt.mpr many, false_or]

/-- The average is divided by no more calls than there were. -/
theorem meanDuration_le (m : Metrics) {s : Span} (told : m.averageDuration? = some s) :
    m.meanDuration ≤ s := by
  rw [averageDuration?_eq] at told
  split at told
  · cases told
    exact Nat.le_refl _
  · split at told
    · cases told
    · next rest =>
      cases told
      show m.meanDuration.nanoseconds ≤ _
      rw [meanDuration_nanoseconds]
      exact Nat.div_le_div_left (Nat.mod_le _ _) (Nat.emod_pos_of_not_dvd rest)

end Metrics

/-! ## What is added up -/

namespace Calls

/-- How many nanoseconds the calls took whose outcome was recorded, the latest first. -/
def lengths : List Entry → List Nat
  | [] => []
  | e :: log =>
    match e.step with
    | .finish id _ =>
      (e.time.nanoseconds - ((beganAt? log id).getD .zero).nanoseconds) :: lengths log
    | _ => lengths log

/-- The mean of lengths, in whole nanoseconds. -/
def mean (ns : List Nat) : Span := if ns.isEmpty then .zero else ⟨ns.sum / ns.length⟩

variable {name : String} {config : Config} {log : List Entry} {c : Calls}

/-- Every recorded call has a length. -/
theorem History.length_lengths (h : History name config log c) :
    (lengths log).length = c.breaker.metrics.totalCalls := by
  induction h with
  | new => rfl
  | @next log c c' now s past later step ih =>
    have counted : c'.breaker.metrics.totalCalls =
        c.breaker.metrics.totalCalls + if s.records then 1 else 0 :=
      congrArg Tally.total (next?_tally step)
    rw [counted, ← ih]
    cases s with
    | finish id succeeded =>
      cases succeeded with
      | true => rfl
      | false => rfl
    | _ => rfl

/-- The time that a breaker has added up is that of the calls in its history, each from when it began. -/
theorem History.sum_lengths (h : History name config log c) :
    (lengths log).sum = c.breaker.metrics.totalDuration.nanoseconds := by
  induction h with
  | new => rfl
  | @next log c c' now s past later step ih =>
    have added : ∀ e : Event, c'.breaker = c.breaker.apply now e →
        c'.breaker.metrics.totalDuration.nanoseconds = (lengths log).sum + e.took.nanoseconds := by
      intro e applied
      rw [applied, (apply_leads c.breaker now e).totalDuration, ih]
      rfl
    cases s with
    | finish id succeeded =>
      obtain ⟨start, running, rfl⟩ := Option.map_eq_some_iff.mp step
      -- The breaker measures from what the call has kept, the history from its entry: they agree.
      have began : beganAt? log id = some start := past.beganAt?_eq running
      simp only [lengths, began, Option.getD_some, List.sum_cons]
      rw [Nat.add_comm]
      cases succeeded with
      | true => exact (added (.succeed ⟨now.nanoseconds - start.nanoseconds⟩) rfl).symm
      | false => exact (added (.fail ⟨now.nanoseconds - start.nanoseconds⟩) rfl).symm
    | begin id =>
      cases step
      exact (added .arrive (begin_breaker c now id)).symm
    | abandon id =>
      cases step
      exact (added .abandon (abandon_breaker c id)).symm
    | forceOpen =>
      cases step
      exact (added .forceOpen rfl).symm
    | forceClosed =>
      cases step
      exact (added .forceClosed rfl).symm

/-- What a breaker has counted has the mean of the calls in its history. -/
theorem History.meanDuration_eq (h : History name config log c) :
    c.breaker.metrics.meanDuration = mean (lengths log) := by
  unfold Metrics.meanDuration mean
  rw [← h.length_lengths, ← h.sum_lengths]
  cases lengths log with
  | nil => rfl
  | cons n ns => rfl

/-- Any number of calls of any one length can be counted: one begins when the one before it has ended
well. -/
theorem exists_history (name : String) (config : Config) (n took : Nat) :
    ∃ log c, History name config log c ∧ c.breaker.state = .closed ∧
      lengths log = List.replicate n took := by
  induction n with
  | zero => exact ⟨[], _, .new, rfl, rfl⟩
  | succ n ih =>
    obtain ⟨log, c, past, closed, counted⟩ := ih
    -- One more call arrives at the time of the latest step, and its success leaves the breaker closed.
    have allowed : c.breaker.arrive (clock log) = (true, c.breaker) :=
      arrive_of_ne_opened (by rw [closed]; decide) _
    obtain ⟨-, breaker, running, -⟩ := begin_of_allowed "call" (congrArg Prod.fst allowed)
    have began := past.next (Nat.le_refl _) (rfl : c.next? (clock log) (.begin "call") = some _)
    have later : clock log ≤ ⟨(clock log).nanoseconds + took⟩ := Nat.le_add_right _ _
    obtain ⟨c', ends⟩ : ∃ c', (c.begin (clock log) "call").2.next? ⟨(clock log).nanoseconds + took⟩
        (.finish "call" true) = some c' := ⟨_, congrArg (Option.map _) running⟩
    obtain ⟨spent, applied⟩ := next?_breaker ends
    refine ⟨_, c', began.next later ends, ?_, ?_⟩
    · rw [applied, breaker, allowed]
      show (c.breaker.recordSuccess spent).gauge.state = .closed
      rw [recordSuccess_gauge, if_neg (by rw [closed]; decide)]
      exact closed
    · simp only [lengths, began.beganAt?_eq running, Option.getD_some, Nat.add_sub_cancel_left,
        counted, List.replicate_succ]

/-- For all counts, whether a breaker made them or they were read: there is no average if and only if the
calls are a multiple of 2^32 and not none; the average is the mean if and only if the calls are fewer
than that, or their time is shorter than so many nanoseconds as there are calls beyond such a multiple;
and it is never below the mean. The mean of what a breaker has counted is that of the calls in its
history. -/
theorem average_right_iff (m : Metrics) :
    (m.averageDuration? = none ↔ 0 < m.totalCalls ∧ Bits.count32 ∣ m.totalCalls) ∧
      (m.averageDuration? = some m.meanDuration ↔
        m.totalCalls < Bits.count32 ∨ m.totalDuration.nanoseconds < m.totalCalls % Bits.count32) ∧
      (∀ s, m.averageDuration? = some s → m.meanDuration ≤ s) ∧
      ∀ name config log c, History name config log c → c.breaker.metrics = m →
        m.meanDuration = mean (lengths log) := by
  refine ⟨m.averageDuration?_eq_none_iff, m.averageDuration?_eq_mean_iff, ?_, ?_⟩
  · intro s told
    exact m.meanDuration_le told
  · intro name config log c h counted
    rw [← counted]
    exact h.meanDuration_eq

/-- The three calls of `troubled` whose outcome was recorded took 2, 2 and 17 nanoseconds, and the
average is 7. -/
theorem average_right_iff_troubled :
    ∃ log c, extend? [] (.new "calls" ⟨2, 2, ⟨10⟩⟩) troubled = some (log, c) ∧
      lengths log = [17, 2, 2] ∧ c.breaker.metrics.averageDuration? = some ⟨7⟩ := by
  have h : History "calls" ⟨2, 2, ⟨10⟩⟩ _ _ := History.extend .new troubled rfl
  obtain ⟨-, right, -, mean⟩ := average_right_iff _
  refine ⟨_, _, rfl, by decide, ?_⟩
  rw [right.mpr (.inl (by decide)), mean _ _ _ _ h rfl]
  decide

/-- When 2^32 calls of a nanosecond each have been recorded there is no average, and when one more has
been it is over four seconds. -/
theorem average_of_many_calls :
    (∃ log c, History "calls" ⟨1, 1, ⟨10⟩⟩ log c ∧ lengths log = List.replicate Bits.count32 1 ∧
      c.breaker.metrics.averageDuration? = none) ∧
    ∃ log c, History "calls" ⟨1, 1, ⟨10⟩⟩ log c ∧ lengths log = List.replicate (Bits.count32 + 1) 1 ∧
      c.breaker.metrics.meanDuration = ⟨1⟩ ∧
      c.breaker.metrics.averageDuration? = some ⟨4294967297⟩ := by
  constructor
  · obtain ⟨log, c, h, -, lengths⟩ := exists_history "calls" ⟨1, 1, ⟨10⟩⟩ Bits.count32 1
    have calls := h.length_lengths
    rw [lengths, List.length_replicate] at calls
    refine ⟨log, c, h, lengths, ?_⟩
    rw [Metrics.averageDuration?_eq_none_iff, ← calls]
    decide
  · obtain ⟨log, c, h, -, lengths⟩ := exists_history "calls" ⟨1, 1, ⟨10⟩⟩ (Bits.count32 + 1) 1
    have calls := h.length_lengths
    have spent := h.sum_lengths
    rw [lengths, List.length_replicate] at calls
    rw [lengths, List.sum_replicate_nat] at spent
    refine ⟨log, c, h, lengths, ?_, ?_⟩
    · rw [Metrics.meanDuration, ← calls, ← spent]
      decide
    · rw [Metrics.averageDuration?_eq, ← calls, ← spent, if_neg (by decide), if_neg (by decide)]
      decide

end Calls

end WorkDispatch.Breaker
