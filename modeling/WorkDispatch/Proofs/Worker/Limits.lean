import WorkDispatch.Proofs.Worker.Clock
import WorkDispatch.Worker.Telling

/-!
# What is within a limit

The limit of an execution counts from the time when it comes to the breaker, and all that it does behind
the breaker is within it: to tell the coordinator that it started, to ask the service, and to tell that
it is finished. What becomes of telling does not matter, but how long it takes does.

`executed_within_limit` says so of a task that is executed on a clock, whatever else is on it: the task
comes to its end, and when the service answers by itself, it is completed if and only if all three together
end within the limit. `answered_task_failed` is a task that fails though its answer was there at once.

The `Fate` of an execution is what it comes to by how long its waits are. One step of its own leads from one
fate to the next (`On.fate_of_step`), a step of another leaves it as it is (`Stepped.fate`), and so every
execution on the clock comes to its fate (`Sound.fated`). How long the service takes is not said of calls
that wait for a release, nor of calls that fail.
-/

set_option autoImplicit false

namespace WorkDispatch

/-- Spans are equal when neither is longer. -/
theorem Span.le_antisymm {a b : Span} (h : a ≤ b) (h' : b ≤ a) : a = b :=
  congrArg Span.mk (Nat.le_antisymm h h')

namespace Worker.Workshop

open Executor (Over Goes)

section

variable {w w' : Workshop} {x x' : Waiting} {y : Execution} {since : Span} {work : Work} {n : Nat}
  {o : Except Failure Finding}

/-! ## Ends -/

/-- With fuel for all that is left, an execution comes to its end, and its result tells what it came to. -/
def Comes (w : Workshop) (n : Nat) (taskId : String) (o : Except Failure Finding) : Prop :=
  ∀ k j, (run j w).left ≤ k → w.left ≤ j → ∃ r,
    (finish k n (run j w)).executor.result? n = some r ∧ r.taskId = taskId ∧ Executor.Reports r o

/-- What has ended is not waited for. -/
theorem finish_of_absent (absent : w.executor.get? n = none) (fuel : Nat) : finish fuel n w = w := by
  cases fuel with
  | zero => rfl
  | succ fuel => simp only [finish, absent]

/-- An end is reported, and nothing that happens later changes the report. -/
theorem comes_of_over {e : Executor} {m : Moment} {k : Executor.Ending} (sound : w.Sound)
    (closed : Over e w.executor m y k) (number : y.number = n) :
    Comes w n y.task.id (k.outcome e.breaker.name y) := by
  subst number
  intro i j _ _
  obtain ⟨gone, results⟩ := (sound.settles j).2.2 y.number closed.gone
  refine ⟨_, ?_, (Executor.resultOf_ids e y m.date _).1, Executor.reports_resultOf e y m.date _⟩
  rw [finish_of_absent gone.absent, Executor.result?_eq_head?, results, closed.results]
  rfl

/-! ## Fates -/

/-- What an execution comes to that has its finding, and has told so by a time. -/
def within (x : Waiting) (y : Execution) (told : Span) (f : Finding) : Except Failure Finding :=
  if told ≤ x.ends then .ok f else .error (Executor.overdue y)

/-- What an execution comes to when it does not fail otherwise. The call that it makes is one of those that
are about to be made. -/
def Fate (w : Workshop) (x : Waiting) (y : Execution) : Work → Except Failure Finding → Prop
  | .starting q, o => ∀ d, x.due = some d → x.failure = none → ∃ i < w.callers,
      ∀ a, (w.analyst.script.getD i .answers).delay? = some a → ∃ date, ∀ f, q.findOffline date = .ok f →
        o = within x y (d + a + (w.telling x.number .finished).ceilMillis) f
  | .asking q, o => ∀ d, x.due = some d → x.failure = none → ∃ date, ∀ f, q.findOffline date = .ok f →
      o = within x y (d + (w.telling x.number .finished).ceilMillis) f
  | .finishing f, o => ∀ d, x.due = some d → o = within x y d f

/-- Who is due only beyond the limit, and tells after that, is overdue. -/
theorem within_of_late {told d : Span} (le : d ≤ told) (late : ¬ d ≤ x.ends) (f : Finding) :
    within x y told f = .error (Executor.overdue y) :=
  if_neg fun inTime => late (Nat.le_trans le inTime)

/-- Who is about to ask is one of those who are. -/
theorem On.callers_pos {q : Inquiry} (on : On w x y since (.starting q)) : 0 < w.callers := by
  have own : w.executor.caller x.number = 1 := by
    rw [Executor.caller, Executor.left_of_get? on.found, on.stage]
    rfl
  refine Nat.lt_of_le_of_lt (Nat.zero_le _) (sum_lt (f := w.executor.caller) (g := fun _ => 0)
    (List.Sublist.refl _) (fun _ _ => Nat.zero_le _) (List.mem_map_of_mem on.waiting) ?_)
  rw [own]
  exact Nat.one_pos

/-- Whatever an execution is at, it fails when its limit ends. -/
theorem On.fate_overdue (on : On w x y since work) (late : ∀ d, x.due = some d → ¬ d ≤ x.ends) :
    Fate w x y work (.error (Executor.overdue y)) := by
  cases work with
  | starting q =>
    refine fun d due _ => ⟨0, on.callers_pos, fun a _ => ⟨.epoch, fun f _ => ?_⟩⟩
    refine (within_of_late ?_ (late d due) f).symm
    exact Nat.le_trans (Nat.le_add_right _ _) (Nat.le_add_right _ _)
  | asking q =>
    refine fun d due _ => ⟨.epoch, fun f _ => ?_⟩
    exact (within_of_late (Nat.le_add_right _ _) (late d due) f).symm
  | finishing f => exact fun d due => (within_of_late (Nat.le_refl _) (late d due) f).symm

/-- A step of another execution may take a call away, but not that of this one. -/
theorem Stepped.fate {n : Nat} (stepped : Stepped w w' n) (fate : Fate w' x y work o) :
    Fate w x y work o := by
  cases work with
  | starting q =>
    intro d due well
    obtain ⟨i, hi, answers⟩ := fate d due well
    rw [stepped.telling] at answers
    rcases stepped.calls with ⟨script, callers⟩ | ⟨script, callers⟩
    · rw [script] at answers
      exact ⟨i, Nat.lt_of_lt_of_le hi callers, answers⟩
    · refine ⟨i + 1, Nat.lt_of_le_of_lt hi callers, fun a delay => answers a ?_⟩
      rw [script]
      cases script' : w.analyst.script with
      | nil => rwa [script'] at delay
      | cons b bs => rwa [script'] at delay
  | asking q =>
    intro d due well
    rw [← stepped.telling]
    exact fate d due well
  | finishing f => exact fate

/-! ## Steps -/

variable {v : Executor.Event} {a : Analyst}

/-- A move takes no time, and leaves how long telling takes. -/
theorem moved_keeps (w : Workshop) (v : Executor.Event) (a : Analyst) (x : Waiting) :
    (w.moved v a x).executor = w.executor.apply w.moment.next v ∧ (w.moved v a x).clock = w.clock ∧
      (w.moved v a x).telling = w.telling := by
  obtain ⟨xs, moved⟩ := w.moved_eq v a x
  rw [moved]
  exact ⟨rfl, rfl, rfl⟩

/-- An execution that goes on is on the clock as before. -/
theorem On.moved (on : On w x y since work) (moves : Moves w x v a x') {work' : Work}
    (goes : Goes w.executor w.moment.next y v (.working since work')) :
    On (w.moved v a x') x' { y with stage := .working since work' } since work' := by
  have found : (w.executor.apply w.moment.next v).get? x'.number =
      some { y with stage := .working since work' } := by
    rw [moves.number, ← on.number]
    exact goes.onward.found
  refine ⟨mem_await ?_ on.waiting moves.number.symm, (w.moved_keeps v a x').1.symm ▸ found, rfl⟩
  exact Option.isSome_iff_exists.2 ⟨_, found⟩

/-- An execution that ends comes to what it ends with. -/
theorem On.comes (sound : w.Sound) (on : On w x y since work) (moves : Moves w x v a x')
    {k : Executor.Ending} (ends : Executor.Ends w.executor w.moment.next y v k) :
    Comes (w.moved v a x') x.number y.task.id (k.outcome w.executor.breaker.name y) := by
  have counted := sound.executor.counted y (Executor.mem_of_get? on.found).1
  have closed := ends.closing on.stage counted
  rw [← (w.moved_keeps v a x').1] at closed
  exact comes_of_over (moves.stepped sound).sound closed on.number

/-- No timer of an execution has ended before the time of the clock. -/
def Ahead (w : Workshop) (x : Waiting) : Prop := ∀ s, Ticks x s → w.clock ≤ s

/-- Every execution on the clock comes to its fate. -/
def Fated (w : Workshop) : Prop := ∀ {x : Waiting} {y : Execution} {since : Span} {work : Work},
  On w x y since work → Ahead w x → ∃ o, Fate w x y work o ∧ Comes w x.number y.task.id o

/-- What is due, and has no timer behind the clock, is due now. -/
theorem Ahead.now {d : Span} (ahead : Ahead w x) (due : x.due = some d) (le : d ≤ w.clock) : d = w.clock :=
  Span.le_antisymm le (ahead d (.inr due))

/-- The coordinator was told that the execution started, and it asks. -/
theorem On.fate_of_told {q : Inquiry} {d : Span} (sound : w.Sound) (on : On w x y since (.starting q))
    (ahead : Ahead w x) (due : x.due = some d) (isDue : d ≤ w.clock)
    (after : (w.proceed x (.starting q)).Sound → Fated (w.proceed x (.starting q))) :
    ∃ o, Fate w x y (.starting q) o ∧ Comes (w.proceed x (.starting q)) x.number y.task.id o := by
  obtain ⟨a, x', proceeds, asked⟩ := w.exists_proceed x q
  have moves := on.asks asked
  obtain ⟨-, clock, telling⟩ := w.moved_keeps (.told x.number) a x'
  rw [proceeds] at after ⊢
  have later : Ahead (w.moved (.told x.number) a x') x' := by
    intro s ticks
    rw [clock]
    rcases ticks with rfl | due
    · exact asked.ends ▸ ahead x.ends (.inl rfl)
    · exact asked.due s due
  -- The fate of what it does next is its own; the answer it gets is the one it asks for here.
  obtain ⟨o, fate, comes⟩ := after (moves.stepped sound).sound (on.moved moves (on.goes_asking _)) later
  refine ⟨o, fun d' due' well => ⟨0, on.callers_pos, fun delay answers => ?_⟩, asked.number ▸ comes⟩
  rw [List.getD_eq_getElem?_getD, ← List.head?_eq_getElem?, ← List.headD_eq_head?_getD] at answers
  obtain ⟨waits, failure⟩ := asked.answer delay answers
  obtain ⟨date, finds⟩ := fate _ waits (failure.trans well)
  refine ⟨date, fun f found => (finds f found).trans ?_⟩
  obtain rfl := Option.some.inj (due.symm.trans due')
  rw [within, within, asked.ends, telling, asked.number, ahead.now due isDue]
  rfl

/-- The service has answered, and if it has not failed, the execution tells that it is finished. -/
theorem On.fate_of_answer {q : Inquiry} {d : Span} (sound : w.Sound) (on : On w x y since (.asking q))
    (ahead : Ahead w x) (due : x.due = some d) (isDue : d ≤ w.clock)
    (after : (w.proceed x (.asking q)).Sound → Fated (w.proceed x (.asking q))) :
    ∃ o, Fate w x y (.asking q) o ∧ Comes (w.proceed x (.asking q)) x.number y.task.id o := by
  obtain ⟨r, proceeds, answer⟩ := w.exists_answer x q
  rw [proceeds] at after ⊢
  generalize told : ({ x with due := some (w.clock + (w.telling x.number .finished).ceilMillis) } :
    Waiting) = x' at after ⊢
  have number : x'.number = x.number := told ▸ rfl
  have moves := on.answered number r
  cases r with
  | ok f =>
    obtain ⟨-, clock, -⟩ := w.moved_keeps (.answered x.number (.ok f)) w.analyst.finish x'
    have later : Ahead (w.moved (.answered x.number (.ok f)) w.analyst.finish x') x' := by
      subst told
      intro s ticks
      rw [clock]
      rcases ticks with rfl | due
      · exact ahead x.ends (.inl rfl)
      · exact Option.some.inj due ▸ Nat.le_add_right _ _
    obtain ⟨o, fate, comes⟩ :=
      after (moves.stepped sound).sound (on.moved moves (on.goes_finishing _ f)) later
    refine ⟨o, fun d' due' well => ⟨w.moment.date, fun f' found => ?_⟩, number ▸ comes⟩
    cases (answer well).trans found
    obtain rfl := Option.some.inj (due.symm.trans due')
    subst told
    -- What is due has no timer behind the clock, so the clock shows the very time of the answer.
    rw [ahead.now due isDue]
    exact fate _ rfl
  | error f =>
    refine ⟨.error f, fun d' _ well => ⟨w.moment.date, fun f' found => ?_⟩,
      on.comes sound moves (on.ends_unanswered _ f)⟩
    cases (answer well).trans found

/-- Whichever step an execution takes, it comes to its fate if all do after it. -/
theorem On.fate_of_step (sound : w.Sound) (on : On w x y since work) (ahead : Ahead w x)
    (step : w.stepOf? x = some w') (after : w'.Sound → Fated w') :
    ∃ o, Fate w x y work o ∧ Comes w' x.number y.task.id o := by
  rw [on.stepOf?_eq] at step
  split at step
  · next isDue =>
    obtain ⟨d, due, isDue⟩ := (Option.any_eq_true _ _).1 isDue
    replace isDue := of_decide_eq_true isDue
    cases step
    cases work with
    | starting q => exact on.fate_of_told sound ahead due isDue after
    | asking q => exact on.fate_of_answer sound ahead due isDue after
    -- Being told ends it, whether or not the limit passes at the same time: what is due comes
    -- first.
    | finishing f =>
      refine ⟨.ok f, fun d' due' => ?_, on.comes sound on.done (on.ends_done _)⟩
      obtain rfl := Option.some.inj (due.symm.trans due')
      exact (if_pos (Nat.le_trans isDue (ahead x.ends (.inl rfl)))).symm
  · next undue =>
    split at step
    · next passed =>
      cases step
      obtain ⟨a, expires, script⟩ := w.exists_expire x work
      rw [expires]
      refine ⟨_, on.fate_overdue fun d due inTime => undue ?_,
        on.comes sound (on.overdue script) (on.ends_overdue _)⟩
      rw [due]
      exact decide_eq_true (Nat.le_trans inTime passed)
    · cases step

/-- By induction on what is left on the clock: the next step is one of this execution, or of another one
which leaves it where it is. -/
theorem Sound.fated (sound : w.Sound) : Fated w := by
  induction left : w.left using Nat.strong_induction_on generalizing w with
  | _ bound ih =>
    subst left
    intro x y since work on ahead
    obtain ⟨c, w', step, next, leads⟩ := sound.leads on.waiting
    have later : ∀ {o}, Comes w' x.number y.task.id o → Comes w x.number y.task.id o := by
      intro o comes k j hk hj
      obtain ⟨k', j', hk', hj', same⟩ := leads k j hk hj
      rw [same]
      exact comes k' j' hk' hj'
    have ahead : Ahead (w.reach c) x := by
      rcases next with rfl | least
      · exact ahead
      · exact least x on.waiting
    have on : On (w.reach c) x y since work := ⟨on.waiting, on.found, on.stage⟩
    obtain ⟨z, hz, step, stepped⟩ := (sound.reach c).of_step? step
    have after : w'.Sound → Fated w' := fun sound => ih w'.left stepped.left sound rfl
    by_cases own : z.number = x.number
    · obtain rfl := List.inj_on_of_nodup_map sound.once hz on.waiting own
      obtain ⟨o, fate, comes⟩ := on.fate_of_step (sound.reach c) ahead step after
      exact ⟨o, fate, later comes⟩
    · have still : On w' x y since work := ⟨(stepped.others x (Ne.symm own)).2 on.waiting,
        (stepped.apart x.number own).get?.trans on.found, on.stage⟩
      obtain ⟨o, fate, comes⟩ := after stepped.sound still fun s ticks => stepped.clock.symm ▸ ahead s ticks
      exact ⟨o, stepped.fate fate, later comes⟩

/-! ## Tasks -/

/-- No more executions are about to ask than are on the clock. -/
theorem callers_le (w : Workshop) : w.callers ≤ w.waiting.length := by
  have le := List.sum_le_card_nsmul ((w.waiting.map Waiting.number).map w.executor.caller) 1 fun k hk => by
    obtain ⟨n, -, rfl⟩ := List.mem_map.1 hk
    unfold Executor.caller
    split
    · exact Nat.le_refl 1
    · exact Nat.zero_le 1
  rw [List.length_map, List.length_map] at le
  exact Nat.le_trans le (Nat.le_of_eq (Nat.mul_one _))

/-- How long a task that the breaker lets through is on the clock: until the coordinator was told that it
started, and no longer than its limit. -/
def newWait (w : Workshop) (t : Task) : Waiting where
  number := w.executor.arrived
  ends := w.clock + (w.executor.limit t w.moment.next.date).ceilMillis
  due := some (w.clock + (w.telling w.executor.arrived .started).ceilMillis)
  gated := false
  failure := none

/-- The workshop when the breaker has let a task through. -/
def entered (w : Workshop) (t : Task) : Workshop :=
  let w' := (w.apply (.arrive t)).apply (.begin w.executor.arrived)
  { w' with waiting := w.waiting ++ [w.newWait t] }

/-- A task that the breaker lets through comes onto the clock with its inquiry. -/
theorem exists_entered {t : Task} {q : Inquiry} (sound : w.Sound) (working : w.cancelled = false)
    (timely : t.isPastDeadline w.moment.next.date = false)
    (allowed : (w.executor.breaker.arrive w.moment.next.next.clock).1 = true)
    (reads : Inquiry.ofTask t = .ok q) :
    w.arrive t = (w.executor.arrived, (w.entered t).settle) ∧ (w.entered t).Sound ∧
      ∃ since, On (w.entered t) (w.newWait t)
        { w.executor.newcomer w.moment.next t with stage := .working since (.starting q) } since
        (.starting q) := by
  let wa := w.apply (.arrive t)
  let wb := wa.apply (.begin w.executor.arrived)
  let y := w.executor.newcomer w.moment.next t
  -- The events of the new execution are about nobody who waits, so the others stay sound through
  -- both of them.
  have off : ∀ z ∈ w.waiting, z.number ≠ w.executor.arrived := fun z hz => Nat.ne_of_lt (sound.counted hz)
  have joins : wa.Sound := sound.apply fun z hz => (off z hz).symm
  have comes : wb.Sound := joins.apply fun z hz => (off z hz).symm
  have joined : wa.executor.get? y.number = some y :=
    (Executor.onward_arrival timely sound.executor.fresh.1).1.found
  have breaker : wa.executor.breaker = w.executor.breaker := by
    show (w.executor.apply w.moment.next (.arrive t)).breaker = _
    simp only [Executor.apply, Executor.arrive, timely, Bool.false_eq_true, if_false]
  have goes : Goes wa.executor wa.moment.next y (.begin y.number)
      (.working wa.moment.next.clock (.starting q)) := .begins joined rfl (breaker ▸ allowed) reads
  have found := goes.onward.found
  have sound' : (w.entered t).Sound := comes.enter (x := w.newWait t) found rfl off
  refine ⟨?_, sound', _, List.mem_append_right _ (List.mem_singleton_self _), found, rfl⟩
  have go : (w.apply (.arrive t)).cancelled = false := working
  have there : ((w.apply (.arrive t)).apply (.begin w.executor.arrived)).executor.get? w.executor.arrived =
    _ := found
  simp only [arrive, go, Bool.false_eq_true, if_false, there]
  rfl

/-- It does not matter at what time of the clock the limit begins. -/
theorem inTime_iff (c s a t l : Span) : c + s + a + t ≤ c + l ↔ s + a + t ≤ l := by
  show c.nanoseconds + s.nanoseconds + a.nanoseconds + t.nanoseconds ≤ c.nanoseconds + l.nanoseconds ↔
    s.nanoseconds + a.nanoseconds + t.nanoseconds ≤ l.nanoseconds
  omega

/-- A task that is an inquiry, is not late and is let through by the breaker comes to its end. It asks the
service once at most, in one of the next calls; if that is answered by itself, the task is completed if
telling that it started, the answer, and telling that it is finished are over when its limit ends, and has
failed otherwise. -/
theorem executed_within_limit {t : Task} {q : Inquiry} (sound : w.Sound) (working : w.cancelled = false)
    (timely : t.isPastDeadline w.moment.next.date = false)
    (allowed : (w.executor.breaker.arrive w.moment.next.next.clock).1 = true)
    (reads : Inquiry.ofTask t = .ok q) (finds : ∀ date, ∃ f, q.findOffline date = .ok f) :
    ∃ r, (w.execute t).1 = some r ∧ r.taskId = t.id ∧ ∃ i ≤ w.waiting.length,
      ∀ a, (w.analyst.script.getD i .answers).delay? = some a →
        ∃ date f, q.findOffline date = .ok f ∧ Executor.Reports r
          (if (w.telling w.executor.arrived .started).ceilMillis + a +
              (w.telling w.executor.arrived .finished).ceilMillis ≤
                (w.executor.limit t w.moment.next.date).ceilMillis
            then .ok f else .error (Executor.overdue (w.executor.newcomer w.moment.next t))) := by
  obtain ⟨arrives, sound', since, on⟩ := exists_entered sound working timely allowed reads
  have ahead : Ahead (w.entered t) (w.newWait t) := by
    rintro s (rfl | due)
    · exact Nat.le_add_right _ _
    · exact Option.some.inj due ▸ Nat.le_add_right _ _
  obtain ⟨o, fate, comes⟩ := sound'.fated on ahead
  -- Its answer is the one after those for which others, who wait already, ask before.
  obtain ⟨i, hi, answers⟩ := fate _ rfl rfl
  have few : i ≤ w.waiting.length := by
    have lt : i < (w.waiting ++ [w.newWait t]).length := Nat.lt_of_lt_of_le hi (w.entered t).callers_le
    rw [List.length_append] at lt
    exact Nat.le_of_lt_succ lt
  have fuel : (w.entered t).settle.left ≤ 5 * ((w.entered t).settle.waiting.length + 1) :=
    Nat.le_trans sound'.settle.left_le_fuel (Nat.mul_le_mul_left 5 (Nat.le_succ _))
  obtain ⟨r, result, id, reports⟩ := comes _ _ fuel sound'.left_le_fuel
  refine ⟨r, ?_, id, i, few, fun a delay => ?_⟩
  · rw [execute, arrives]
    exact result
  · obtain ⟨date, same⟩ := answers a delay
    obtain ⟨f, found⟩ := finds date
    refine ⟨date, f, found, ?_⟩
    rw [same f found] at reports
    exact (congrArg (Executor.Reports r) (if_congr (inTime_iff w.clock _ _ _ _) rfl rfl)).mp reports

end

open Executor (errand idle)

/-! ## Two tasks at a time -/

/-- What an errand asks for. -/
def inquiry : Inquiry := .insight ⟨"user-1", ["e-1"], "mood", none⟩

/-- A workshop with a task on its clock; the service takes two seconds for each, and telling one. -/
def shared : Workshop :=
  ((new idle (.new "scripted" [.answersAfter (.ofSeconds 2), .answersAfter (.ofSeconds 2)] none)
    (.ofSeconds 1) .epoch).arrive (errand "t-1")).2

/-- The second task is completed, whichever of the two calls is its own. -/
theorem executed_within_limit_shared :
    ∃ r, (shared.execute (errand "t-2")).1 = some r ∧ r.taskId = "t-2" ∧ r.status = .completed := by
  have sound : shared.Sound := (sound_new (Executor.sound_new _ _ _ _) _ _ _).arrive _
  have reads : Inquiry.ofTask (errand "t-2") = .ok inquiry := by decide +kernel
  obtain ⟨r, result, id, i, hi, answers⟩ := executed_within_limit sound (by decide +kernel)
    (by decide +kernel) (by decide +kernel) reads fun date => ⟨_, rfl⟩
  refine ⟨r, result, id, ?_⟩
  have waiting : shared.waiting.length = 1 := by decide +kernel
  have delay : ∀ i ≤ 1, (shared.analyst.script.getD i .answers).delay? = some (.ofSeconds 2) := by
    decide +kernel
  obtain ⟨date, f, found, reports⟩ := answers _ (delay i (waiting ▸ hi))
  have inTime : (shared.telling shared.executor.arrived .started).ceilMillis + .ofSeconds 2 +
      (shared.telling shared.executor.arrived .finished).ceilMillis ≤
        (shared.executor.limit (errand "t-2") shared.moment.next.date).ceilMillis := by decide +kernel
  rw [if_pos inTime] at reports
  cases reports with
  | completed status => exact status

/-! ## A coordinator that does not answer -/

/-- A connection as it is by default. -/
def quietLine : Connection.Line Unit := ⟨.new .default .connection, .default, .zero, 0, ()⟩

/-- Telling a coordinator that takes every dial and every call, and answers none. -/
def tellInVain (k : Checkpoint) : Connection.Line Unit → Span × Connection.Line Unit :=
  tell false (fun _ => (none, ())) (fun _ _ => (.overdue, ())) (k.update "w-1" "t-1" inquiry .epoch)

/-- How long it takes: each time all attempts are made, one after another. -/
def inVain : Checkpoint → Span
  | .started => (tellInVain .started quietLine).1
  | .finished => (tellInVain .finished (tellInVain .started quietLine).2).1

/-- A worker as it is by default, of which the coordinator hears nothing. Its service answers at once. -/
def unheard : Workshop where
  executor := .new "w-1" (.ofSeconds 300) .taskProcessing
  analyst := .new "scripted" [.answers] none
  telling _ := inVain
  waiting := []
  cancelled := false
  clock := .zero
  moment := ⟨.epoch, .zero⟩

/-- The breaker lets the task through and the service answers it at once, but the five minutes are over
before the coordinator could be told of it. -/
theorem answered_task_failed :
    unheard.cancelled = false ∧
      (errand "t-1").isPastDeadline unheard.moment.next.date = false ∧
      (unheard.executor.breaker.arrive unheard.moment.next.next.clock).1 = true ∧
      Inquiry.ofTask (errand "t-1") = .ok inquiry ∧
      unheard.analyst.begin.1.delay? = some .zero ∧
      unheard.executor.limit (errand "t-1") unheard.moment.next.date = .ofSeconds 300 ∧
      (unheard.execute (errand "t-1")).1.map (fun r => (r.status, r.result, r.errorMessage)) =
        some (.failed, [], "Deadline exceeded: task t-1 did not finish within 300s") ∧
      (unheard.execute (errand "t-1")).2.analyst.calls = 1 := by
  decide +kernel

end Worker.Workshop

end WorkDispatch
