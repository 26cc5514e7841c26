import WorkDispatch.Proofs.Breaker.Counts

/-!
# Who decides a trial

A breaker on trial counts the successes that are recorded, and asks of none when its call began. Some
are of probes, calls that began in the trial. Others come late: their calls began before it.
`closed_by_probes_iff` says what they amount to. When a trial closes the breaker and nobody has forced
it, the probes and the late calls that succeeded in the trial are together as many as the threshold
asks for. So the probes alone are enough if and only if no late call succeeded.

Late calls are not kept from it anywhere: `closed_by_late_call` is a run in which the one success is of
a call that began before the breaker opened, and the one probe still runs when the breaker closes.
-/

set_option autoImplicit false

namespace WorkDispatch.Breaker.Calls

/-! ## Before and since the latest trial began -/

/-- A call of the name begins. -/
def Entry.begins (id : String) (e : Entry) : Bool := e.starts && e.step == .begin id

/-- What happened since the latest trial began, with the call that began it. -/
def sinceTrial (log : List Entry) : List Entry :=
  (log.takeWhile fun e => !e.enters .halfOpen) ++ (log.dropWhile fun e => !e.enters .halfOpen).take 1

/-- What happened before the latest trial began. -/
def beforeTrial (log : List Entry) : List Entry :=
  (log.dropWhile fun e => !e.enters .halfOpen).drop 1

/-- The latest call of the name began in the trial. -/
def isProbe (log : List Entry) (id : String) : Bool := (sinceTrial log).any (·.begins id)

/-- The latest call of the name began before the trial. -/
def isLate (log : List Entry) (id : String) : Bool :=
  (beforeTrial log).any (·.begins id) && !isProbe log id

/-- How many successes of calls of a kind were recorded since the latest trial began. What kind a call
is of is read off the history up to its success. -/
def successesOf (kind : List Entry → String → Bool) : List Entry → Nat
  | [] => 0
  | e :: log =>
    if e.enters .halfOpen then 0
    else
      match e.step with
      | .finish id true => successesOf kind log + if kind log id then 1 else 0
      | _ => successesOf kind log

/-- How many probes succeeded in the latest trial. -/
def probeSuccesses : List Entry → Nat := successesOf isProbe

/-- How many late calls succeeded in the latest trial. -/
def lateSuccesses : List Entry → Nat := successesOf isLate

/-- A log falls into what came since the last trial began and what came before. -/
theorem sinceTrial_append_beforeTrial (log : List Entry) :
    sinceTrial log ++ beforeTrial log = log := by
  unfold sinceTrial beforeTrial
  rw [List.append_assoc, List.take_append_drop, List.takeWhile_append_dropWhile]

/-- A call that began is a probe or late, and not both. -/
theorem isLate_eq_not_isProbe {log : List Entry} {id : String} (began : log.any (·.begins id) = true) :
    isLate log id = !isProbe log id := by
  rw [← sinceTrial_append_beforeTrial log, List.any_append] at began
  unfold isLate
  cases probe : isProbe log id with
  | true => rw [Bool.not_true, Bool.and_false]
  | false =>
    have since : (sinceTrial log).any (·.begins id) = false := probe
    rw [since, Bool.false_or] at began
    rw [began]
    rfl

variable {name : String} {config : Config} {log : List Entry} {c c' : Calls} {now : Span} {s : Step}

/-! ## Every call that ends has begun -/

/-- When the latest call of the name began, if one has. -/
def beganAt? (log : List Entry) (id : String) : Option Span :=
  (log.find? (·.begins id)).map Entry.time

/-- A call began at its latest beginning. -/
theorem beganAt?_cons (e : Entry) (log : List Entry) (id : String) :
    beganAt? (e :: log) id = if e.begins id then some e.time else beganAt? log id := by
  unfold beganAt?
  rw [List.find?_cons]
  cases e.begins id with
  | true => rfl
  | false => rfl

/-- A call that runs after a step has just begun, or ran before it. -/
theorem running_since (step : c.next? now s = some c') {id : String} {t : Span}
    (running : c'.running.get? id = some t) :
    Entry.begins id ⟨now, s, c.breaker.state, c'.breaker.state⟩ = true ∧ t = now ∨
      Entry.begins id ⟨now, s, c.breaker.state, c'.breaker.state⟩ = false ∧
        c.running.get? id = some t := by
  have erased : ∀ (calls : Table Span) (k : String), (calls.erase k).get? id = some t →
      calls.get? id = some t := by
    intro calls k there
    rw [Table.get?_erase] at there
    split at there
    · cases there
    · exact there
  have abandoned : ∀ (d : Calls) (k : String), (d.abandon k).running.get? id = some t →
      d.running.get? id = some t := by
    intro d k there
    unfold abandon at there
    split at there
    · exact erased _ k there
    · exact there
  cases s with
  | begin k =>
    cases step
    rw [Entry.begins, starts_begin]
    cases allowed : (c.breaker.arrive now).1 with
    | false =>
      rw [begin_of_rejected k allowed] at running
      exact .inr ⟨rfl, running⟩
    | true =>
      -- A call that begins takes the place of an older one of its name.
      by_cases own : id = k
      · subst own
        rw [(begin_of_allowed id allowed).2.2.1] at running
        exact .inl ⟨beq_self_eq_true _, (Option.some.inj running).symm⟩
      · refine .inr ⟨beq_false_of_ne (fun same => own (Step.begin.inj same).symm), ?_⟩
        unfold begin at running
        simp only [allowed, if_true, Table.get?_put, own, if_false] at running
        exact abandoned { c with breaker := (c.breaker.arrive now).2 } k running
  | finish k succeeded =>
    obtain ⟨start, -, rfl⟩ := Option.map_eq_some_iff.mp step
    exact .inr ⟨rfl, erased c.running k running⟩
  | abandon k =>
    cases step
    exact .inr ⟨rfl, abandoned c k running⟩
  | forceOpen =>
    cases step
    exact .inr ⟨rfl, running⟩
  | forceClosed =>
    cases step
    exact .inr ⟨rfl, running⟩

/-- What a breaker keeps of a call that runs is when it began. -/
theorem History.beganAt?_eq (h : History name config log c) {id : String} {t : Span}
    (running : c.running.get? id = some t) : beganAt? log id = some t := by
  induction h with
  | new => cases running
  | next past later step ih =>
    rw [beganAt?_cons]
    obtain ⟨begins, rfl⟩ | ⟨other, before⟩ := running_since step running
    · rw [if_pos begins]
    · rw [other]
      exact ih before

/-- A call that runs has begun. -/
theorem History.began (h : History name config log c) {id : String}
    (running : (c.running.get? id).isSome = true) : log.any (·.begins id) = true := by
  obtain ⟨t, running⟩ := Option.isSome_iff_exists.mp running
  obtain ⟨e, found, -⟩ := Option.map_eq_some_iff.mp (h.beganAt?_eq running)
  exact List.any_eq_true.mpr ⟨e, List.mem_of_find?_eq_some found, List.find?_some found⟩

/-! ## Successes in a trial -/

/-- Every success in a trial is of a probe or of a late call. -/
theorem History.trialSuccesses_eq (h : History name config log c) :
    trialSuccesses log = probeSuccesses log + lateSuccesses log := by
  induction h with
  | new => rfl
  | @next log c c' now s past later step ih =>
    rw [trialSuccesses_cons]
    unfold probeSuccesses lateSuccesses at ih ⊢
    simp only [successesOf]
    split
    · rfl
    · cases s with
      | finish id succeeded =>
        cases succeeded with
        | false => exact ih
        | true =>
          obtain ⟨start, running, -⟩ := Option.map_eq_some_iff.mp step
          have began : log.any (·.begins id) = true := past.began (by rw [running]; rfl)
          simp only [Step.succeeds, if_true, ih, isLate_eq_not_isProbe began]
          cases isProbe log id with
          | true => simp only [if_true, Bool.not_true, Bool.false_eq_true, if_false]; omega
          | false => simp only [Bool.false_eq_true, if_false, Bool.not_false, if_true]; omega
      | _ => exact ih

/-- A trial that closes the breaker unforced has had as many successes as the threshold asks for. -/
theorem trialSuccesses_of_closing (h : History name config log c) (hf : 0 < config.failureThreshold)
    (hs : 0 < config.successThreshold) (step : c.next? now s = some c')
    (trial : c.breaker.state = .halfOpen) (closes : c'.breaker.state = .closed)
    (unforced : s ≠ .forceClosed) :
    trialSuccesses (⟨now, s, c.breaker.state, c'.breaker.state⟩ :: log) = config.successThreshold := by
  obtain ⟨took, hb⟩ := next?_breaker step
  have left := (h.kept hf hs).leaves_trial trial now took s
  rw [← hb, closes] at left
  split at left
  · cases left
  · split at left
    · next enough =>
      obtain ⟨succeeds, last⟩ := enough.resolve_left unforced
      have stays : Entry.enters .halfOpen ⟨now, s, c.breaker.state, c'.breaker.state⟩ = false :=
        Entry.enters_of_ne (by rw [closes]; exact nofun)
      rw [trialSuccesses_cons, stays, succeeds]
      exact last
    · cases left

/-- Whatever calls overlap, when a trial closes the breaker and nobody has forced it, the probes and the
late calls that succeeded in it are as many as the threshold asks for. The probes are as many if and only
if there was no such late call. -/
theorem closed_by_probes_iff {e : Entry} (h : History name config (e :: log) c)
    (hf : 0 < config.failureThreshold) (hs : 0 < config.successThreshold)
    (trial : e.before = .halfOpen) (closes : e.after = .closed) (unforced : e.step ≠ .forceClosed) :
    probeSuccesses (e :: log) + lateSuccesses (e :: log) = config.successThreshold ∧
      (config.successThreshold ≤ probeSuccesses (e :: log) ↔ lateSuccesses (e :: log) = 0) := by
  have all : trialSuccesses (e :: log) = config.successThreshold := by
    cases h with
    | next past later step => exact trialSuccesses_of_closing past hf hs step trial closes unforced
  rw [h.trialSuccesses_eq] at all
  refine ⟨all, ?_⟩
  omega

/-- A call begins, another fails and opens the breaker, and after the timeout a probe begins a trial. -/
def slow : List (Span × Step) :=
  [(⟨0⟩, .begin "slow"), (⟨1⟩, .begin "a"), (⟨2⟩, .finish "a" false), (⟨12⟩, .begin "probe")]

/-- The probe and the slow call succeed, and close a breaker that asks for two successes. -/
theorem closed_by_probes_iff_half :
    ∃ e log c, extend? [] (.new "calls" ⟨1, 2, ⟨10⟩⟩)
        (slow ++ [(⟨13⟩, .finish "probe" true), (⟨14⟩, .finish "slow" true)]) = some (e :: log, c) ∧
      e.before = .halfOpen ∧ e.after = .closed ∧ e.step ≠ .forceClosed ∧ lateSuccesses (e :: log) = 1 ∧
      ¬ 2 ≤ probeSuccesses (e :: log) := by
  have h : History "calls" ⟨1, 2, ⟨10⟩⟩ _ _ := History.extend .new
    (slow ++ [(⟨13⟩, .finish "probe" true), (⟨14⟩, .finish "slow" true)]) rfl
  obtain ⟨-, enough⟩ := closed_by_probes_iff h (by decide) (by decide) rfl rfl (by decide)
  refine ⟨_, _, _, rfl, rfl, rfl, by decide, by decide, ?_⟩
  rw [enough]
  decide

/-- A breaker that asks for one success closes with the slow call while its only probe runs: no call that
began in the trial has succeeded. -/
theorem closed_by_late_call :
    ∃ e log c, extend? [] (.new "calls" ⟨1, 1, ⟨10⟩⟩) (slow ++ [(⟨13⟩, .finish "slow" true)]) =
        some (e :: log, c) ∧
      e.before = .halfOpen ∧ e.after = .closed ∧ (∀ x ∈ e :: log, x.step ≠ .forceClosed) ∧
      probeSuccesses (e :: log) = 0 ∧ (c.running.get? "probe").isSome = true := by
  refine ⟨_, _, _, rfl, rfl, rfl, ?_, ?_, ?_⟩
  · decide
  · decide
  · decide

end WorkDispatch.Breaker.Calls
