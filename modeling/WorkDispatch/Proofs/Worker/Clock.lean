import Mathlib.Algebra.Order.BigOperators.Group.List
import Mathlib.Algebra.Order.Ring.Nat
import WorkDispatch.Proofs.Worker.Endings

/-!
# The clock of a workshop

Every step on the clock is an event of one execution, which goes on or ends (`Moves`), and all others stay
where they are (`Moves.stepped`). So there are fewer steps left after every step, and the fuel of `settle`
and `finish` lasts: what happens next happens at once or when the next timer ends, and there is fuel for
what is left after it (`Sound.leads`).

`Sound` is what makes a timer mean something: every execution on the clock is behind the breaker. A new
workshop is sound, and whatever is done to one leaves it so (`Sound.arrive` to `Sound.cancel`). Nothing here
says which timer ends first.
-/

set_option autoImplicit false

namespace WorkDispatch.Worker

/-- How long the service takes to answer, if it does by itself. -/
def Behaviour.delay? : Behaviour → Option Span
  | answers => some .zero
  | answersAfter s => some s.ceilMillis
  | _ => none

/-- The moment of the next event. -/
def Moment.next (m : Moment) : Moment := ⟨m.date.plusNanos 1000, m.clock + ⟨1000⟩⟩

/-- How many events an execution behind the breaker is away from its end, at most. -/
def Work.left : Work → Nat
  | starting _ => 3
  | asking _ => 2
  | finishing _ => 1

def Stage.left : Stage → Nat
  | arrived => 4
  | working _ w => w.left

/-- Work that goes on is an event away from its end at least. -/
theorem Work.left_pos (w : Work) : 0 < w.left := by
  cases w with
  | starting | asking | finishing => exact Nat.succ_pos _

/-- It is three events away at most. -/
theorem Work.left_le (w : Work) : w.left ≤ 3 := by
  cases w with
  | starting => exact Nat.le_refl 3
  | asking => exact Nat.le_succ 2
  | finishing => exact Nat.le_add_left 1 2

namespace Executor

/-- How many events the execution of a number is away from its end. -/
def left (e : Executor) (n : Nat) : Nat := (e.get? n).elim 0 fun x => x.stage.left

/-- How often the execution of a number is about to ask the service. -/
def caller (e : Executor) (n : Nat) : Nat := if e.left n = 3 then 1 else 0

section

variable {e : Executor} {m : Moment} {x : Execution} {v : Event} {s : Stage} {k : Ending} {n : Nat}

/-- What is found is as far from its end as its stage says. -/
theorem left_of_get? (found : e.get? n = some x) : e.left n = x.stage.left := by
  rw [left, found]
  rfl

/-- Going on brings an execution nearer to its end. -/
theorem Goes.left_lt (goes : Goes e m x v s) : s.left < x.stage.left := by
  cases goes with
  | begins found stage | asks found stage | answered found stage =>
    rw [stage]
    exact Nat.lt_succ_self _

/-- An execution that goes on is behind the breaker. -/
theorem Goes.working (goes : Goes e m x v s) : ∃ since work, s = .working since work := by
  cases goes with
  | begins | asks | answered => exact ⟨_, _, rfl⟩

/-- The end of an execution that the breaker let through. -/
theorem Ends.closing {since : Span} {work : Work} (ends : Ends e m x v k)
    (stage : x.stage = .working since work) (counted : x.number < e.arrived) :
    Over e (e.apply m v) m x k := by
  cases ends with
  | late => cases stage
  | rejected _ arrived | unfit _ arrived => cases arrived.symm.trans stage
  | @unanswered _ since' _ f found stage' =>
    simp only [apply, found, stage']
    exact over_settle (k := .unanswered f) counted rfl m since'
  | @done _ since' f found stage' =>
    simp only [apply, found, stage']
    exact over_settle (k := .done f) counted rfl m since'
  | @overdue _ since' _ found stage' =>
    simp only [apply, found, stage']
    exact over_settle (k := .overdue) counted rfl m since'
  | stopped found =>
    simp only [apply, found]
    exact over_conclude (k := .stopped) (b := e.breaker) counted rfl rfl rfl

/-- An execution that has not ended when it came to the breaker was let through. -/
theorem working_of_arrival (sound : e.Sound) (m m' : Moment) (t : Task)
    (comes : v = .begin e.arrived ∨ v = .cancel e.arrived)
    (found : ((e.apply m (.arrive t)).apply m' v).get? e.arrived = some x) :
    ∃ since work, x.stage = .working since work := by
  cases past : t.isPastDeadline m.date with
  | true =>
    have gone := (over_arrival (e := e) past).1.gone.apply m' v
    cases found.symm.trans gone.1.absent
  | false =>
    obtain ⟨joined, counted⟩ := onward_arrival (e := e) past sound.fresh.1
    rcases turn_of_found (x := e.newcomer m t) joined.found counted m' v with
      waits | ⟨s, goes, onward⟩ | ⟨k, ends, closed⟩
    · rcases comes with rfl | rfl
      · exact absurd rfl (waits.idle.begin rfl)
      · exact absurd rfl waits.idle.cancel
    · obtain rfl := Option.some.inj (found.symm.trans onward.found)
      exact goes.working
    · cases found.symm.trans closed.gone.absent

/-- The result of an execution is the latest that was written under its number. -/
theorem result?_eq_head? (e : Executor) (n : Nat) : e.result? n = (e.results n).head? := by
  unfold result? results
  induction e.ended with
  | nil => rfl
  | cons p ps ih =>
    obtain ⟨k, r⟩ := p
    rw [List.lookup_cons, List.filter_cons]
    by_cases own : k = n
    · subst own
      simp only [beq_self_eq_true, if_true]
      rfl
    · have other : (k == n) = false := beq_false_of_ne own
      have other' : (n == k) = false := beq_false_of_ne (Ne.symm own)
      simp only [other, other', Bool.false_eq_true, if_false]
      exact ih

end

end Executor

namespace Workshop

open Executor (Event Goes Ends Apart Gone)

/-- The workshop when its clock has reached a time. -/
def reach (w : Workshop) (c : Span) : Workshop := { w with clock := c }

/-- How many steps there are left on the clock, at most. -/
def left (w : Workshop) : Nat := ((w.waiting.map Waiting.number).map w.executor.left).sum

/-- How many executions on the clock are about to ask the service. -/
def callers (w : Workshop) : Nat := ((w.waiting.map Waiting.number).map w.executor.caller).sum

/-- Every execution on the clock is behind the breaker, and is there once. -/
structure Sound (w : Workshop) : Prop where
  executor : w.executor.Sound
  once : (w.waiting.map Waiting.number).Nodup
  working : ∀ x ∈ w.waiting, ∃ y since work,
    w.executor.get? x.number = some y ∧ y.stage = .working since work

section

variable {w w' : Workshop} {x x' : Waiting} {y : Execution} {since : Span} {work : Work}

/-! ## Waiting -/

/-- Waiting on is a matter of the clock alone. -/
theorem await_eq (w : Workshop) (x : Waiting) : ∃ xs, w.await x = { w with waiting := xs } := by
  unfold await
  split
  · exact ⟨_, rfl⟩
  · exact ⟨_, rfl⟩

/-- Nothing comes onto the clock by waiting on. -/
theorem numbers_await (w : Workshop) (x : Waiting) :
    ((w.await x).waiting.map Waiting.number).Sublist (w.waiting.map Waiting.number) := by
  unfold await
  split
  · have same : (w.waiting.map fun y => if y.number = x.number then x else y).map Waiting.number =
        w.waiting.map Waiting.number := by
      rw [List.map_map]
      refine List.map_congr_left fun y _ => ?_
      show (if y.number = x.number then x else y).number = y.number
      split
      · next own => exact own.symm
      · rfl
    show List.Sublist (List.map _ (List.map _ _)) _
    rw [same]
  · exact List.filter_sublist.map _

/-- One execution that waits on leaves the others on the clock. -/
theorem mem_await_of_ne (w : Workshop) (x : Waiting) {z : Waiting} (other : z.number ≠ x.number) :
    z ∈ (w.await x).waiting ↔ z ∈ w.waiting := by
  unfold await
  split
  · show z ∈ w.waiting.map _ ↔ _
    rw [List.mem_map]
    constructor
    · rintro ⟨u, hu, rfl⟩
      split at other
      · exact absurd rfl other
      · next apart => rwa [if_neg apart]
    · exact fun hz => ⟨z, hz, if_neg other⟩
  · exact List.mem_filter.trans (and_iff_left (bne_iff_ne.2 other))

/-- An execution that has ended does not wait any more. -/
theorem isSome_of_mem_await {z : Waiting} (hz : z ∈ (w.await x).waiting) (own : z.number = x.number) :
    (w.executor.get? x.number).isSome = true := by
  unfold await at hz
  split at hz
  · next there => exact there
  · exact absurd own (bne_iff_ne.1 (List.mem_filter.1 hz).2)

/-- An execution that has not ended stays on the clock when it waits on. -/
theorem mem_await (there : (w.executor.get? x'.number).isSome = true) (hx : x ∈ w.waiting)
    (number : x.number = x'.number) : x' ∈ (w.await x').waiting := by
  rw [await, if_pos there]
  exact List.mem_map.2 ⟨x, hx, if_pos number⟩

/-! ## Steps -/

/-- The execution of a number has gone on or ended. -/
structure Stepped (w w' : Workshop) (n : Nat) : Prop where
  sound : w'.Sound
  clock : w'.clock = w.clock
  telling : w'.telling = w.telling
  arrived : w.executor.arrived ≤ w'.executor.arrived
  apart : ∀ k, n ≠ k → Apart k w.executor w'.executor
  others : ∀ z : Waiting, z.number ≠ n → (z ∈ w'.waiting ↔ z ∈ w.waiting)
  left : w'.left < w.left
  /-- The service is asked by one that was about to ask it. -/
  calls : w'.analyst.script = w.analyst.script ∧ w'.callers ≤ w.callers ∨
    w'.analyst.script = w.analyst.script.tail ∧ w'.callers < w.callers

/-- The workshop after an event of an execution, which then waits for something else or not any more. -/
def moved (w : Workshop) (v : Event) (a : Analyst) (x : Waiting) : Workshop :=
  ({ w.apply v with analyst := a } : Workshop).await x

/-- An event takes an execution on the clock on or ends it; the service is asked if that was next. -/
structure Moves (w : Workshop) (x : Waiting) (v : Event) (a : Analyst) (x' : Waiting) : Prop where
  waiting : x ∈ w.waiting
  acts : ∃ y, w.executor.get? x.number = some y ∧
    ((∃ s, Goes w.executor w.moment.next y v s) ∨ ∃ k, Ends w.executor w.moment.next y v k)
  number : x'.number = x.number
  script : a.script = w.analyst.script ∨
    a.script = w.analyst.script.tail ∧ w.executor.left x.number = 3

variable {v : Event} {a : Analyst}

/-- A move is an event, and what it leaves on the clock. -/
theorem moved_eq (w : Workshop) (v : Event) (a : Analyst) (x : Waiting) :
    ∃ xs, w.moved v a x = Workshop.mk (w.executor.apply w.moment.next v) a w.telling xs w.cancelled w.clock
      w.moment.next :=
  await_eq _ x

/-- A move is about the execution that it moves. -/
theorem Moves.about (moves : Moves w x v a x') : w.executor.about v = x.number := by
  obtain ⟨y, found, ⟨s, goes⟩ | ⟨k, ends⟩⟩ := moves.acts
  · exact goes.about.trans (Executor.mem_of_get? found).2
  · exact ends.about.trans (Executor.mem_of_get? found).2

/-- Nothing on the clock is more than three steps from its end. -/
theorem Sound.left_le (sound : w.Sound) (hx : x ∈ w.waiting) : w.executor.left x.number ≤ 3 := by
  obtain ⟨y, since, work, found, stage⟩ := sound.working x hx
  rw [Executor.left_of_get? found, stage]
  exact work.left_le

/-- An execution that has gone on is nearer to its end, and still behind the breaker. -/
theorem Moves.nearer (sound : w.Sound) (moves : Moves w x v a x') :
    let e := w.executor.apply w.moment.next v
    e.left x.number < w.executor.left x.number ∧ ((e.get? x.number).isSome = true →
      ∃ y since work, e.get? x.number = some y ∧ y.stage = .working since work) := by
  intro e
  obtain ⟨y, found, acts⟩ := moves.acts
  obtain ⟨y', since, work, found', stage⟩ := sound.working x moves.waiting
  obtain rfl := Option.some.inj (found.symm.trans found')
  have member := Executor.mem_of_get? found
  rw [Executor.left_of_get? found, ← member.2]
  rcases acts with ⟨s, goes⟩ | ⟨k, ends⟩
  · have onward := goes.onward.found
    obtain ⟨since', work', rfl⟩ := goes.working
    rw [Executor.left_of_get? onward]
    exact ⟨goes.left_lt, fun _ => ⟨_, since', work', onward, rfl⟩⟩
  · have absent := (ends.closing stage (sound.executor.counted y member.1)).gone.absent
    rw [Executor.left, absent, stage]
    exact ⟨work.left_pos, nofun⟩

/-- A sum over fewer numbers is no more if no term of it is. -/
theorem sum_le {f g : Nat → Nat} {ns ms : List Nat} (sub : ms.Sublist ns)
    (le : ∀ k ∈ ns, g k ≤ f k) : (ms.map g).sum ≤ (ns.map f).sum :=
  Nat.le_trans ((sub.map g).sum_le_sum fun _ _ => Nat.zero_le _) (List.sum_le_sum le)

/-- A sum falls when one of its terms does, some are left out, and none grows. -/
theorem sum_lt {f g : Nat → Nat} {ns ms : List Nat} {n : Nat} (sub : ms.Sublist ns)
    (le : ∀ k ∈ ns, g k ≤ f k) (hn : n ∈ ns) (lt : g n < f n) : (ms.map g).sum < (ns.map f).sum :=
  Nat.lt_of_le_of_lt ((sub.map g).sum_le_sum fun _ _ => Nat.zero_le _)
    (List.sum_lt_sum g f le ⟨n, hn, lt⟩)

/-- Every move is a step of the execution that it moves. -/
theorem Moves.stepped (sound : w.Sound) (moves : Moves w x v a x') :
    Stepped w (w.moved v a x') x.number := by
  have apart : ∀ k, x.number ≠ k → Apart k w.executor (w.executor.apply w.moment.next v) :=
    fun k other => Executor.apart_apply _ _ v (moves.about ▸ other)
  have numbers := numbers_await { w.apply v with analyst := a } x'
  have others : ∀ z : Waiting, z.number ≠ x.number → (z ∈ (w.moved v a x').waiting ↔ z ∈ w.waiting) :=
    fun z other => mem_await_of_ne _ x' (moves.number.symm ▸ other)
  have isSome : ∀ z ∈ (w.moved v a x').waiting, z.number = x.number →
      ((w.executor.apply w.moment.next v).get? x.number).isSome = true := by
    intro z hz own
    have there := isSome_of_mem_await hz (own.trans moves.number.symm)
    rwa [moves.number] at there
  obtain ⟨less, working⟩ := moves.nearer sound
  have member : x.number ∈ w.waiting.map Waiting.number := List.mem_map_of_mem moves.waiting
  have same : ∀ k, x.number ≠ k → (w.executor.apply w.moment.next v).left k = w.executor.left k :=
    fun k other => by rw [Executor.left, (apart k other).get?, Executor.left]
  -- One that is about to ask has three turns left, so whoever has taken one is not about to ask.
  have silent : (w.executor.apply w.moment.next v).caller x.number = 0 :=
    if_neg (Nat.ne_of_lt (Nat.lt_of_lt_of_le less (sound.left_le moves.waiting)))
  have lefts : ∀ k, (w.executor.apply w.moment.next v).left k ≤ w.executor.left k := by
    intro k
    by_cases own : x.number = k
    · exact own ▸ Nat.le_of_lt less
    · exact Nat.le_of_eq (same k own)
  have callers : ∀ k, (w.executor.apply w.moment.next v).caller k ≤ w.executor.caller k := by
    intro k
    by_cases own : x.number = k
    · rw [← own, silent]
      exact Nat.zero_le _
    · rw [Executor.caller, same k own]
      exact Nat.le_refl _
  obtain ⟨xs, after⟩ := moved_eq w v a x'
  change (List.map _ (w.moved v a x').waiting).Sublist _ at numbers
  rw [after] at numbers others isSome ⊢
  -- Both measures are sums over the executions that wait, and one term of each has gone down.
  refine {
    sound := ⟨sound.executor.apply _ v, sound.once.sublist numbers, fun z hz => ?_⟩
    clock := rfl
    telling := rfl
    arrived := (Executor.apply_keeps _ _ v).2.2
    apart := apart
    others := others
    left := sum_lt numbers (fun k _ => lefts k) member less
    calls := ?_ }
  · by_cases own : z.number = x.number
    · rw [own]
      exact working (isSome z hz own)
    · obtain ⟨y, since, work, found, stage⟩ := sound.working z ((others z own).1 hz)
      exact ⟨y, since, work, (apart z.number (Ne.symm own)).get?.trans found, stage⟩
  · refine moves.script.imp (fun script => ⟨script, sum_le numbers fun k _ => callers k⟩) ?_
    rintro ⟨script, about⟩
    refine ⟨script, sum_lt numbers (fun k _ => callers k) member ?_⟩
    rw [silent, Executor.caller, if_pos about]
    exact Nat.one_pos

/-! ## What a step is -/

/-- An execution on the clock, and the work behind the breaker that it is at. -/
structure On (w : Workshop) (x : Waiting) (y : Execution) (since : Span) (work : Work) : Prop where
  waiting : x ∈ w.waiting
  found : w.executor.get? x.number = some y
  stage : y.stage = .working since work

/-- How an execution waits for the service that it has asked. -/
structure Asked (w : Workshop) (x : Waiting) (a : Analyst) (x' : Waiting) : Prop where
  script : a.script = w.analyst.script.tail
  number : x'.number = x.number
  ends : x'.ends = x.ends
  due : ∀ d, x'.due = some d → w.clock ≤ d
  answer : ∀ s, (w.analyst.script.headD .answers).delay? = some s →
    x'.due = some (w.clock + s) ∧ x'.failure = x.failure

/-- Asking the service uses up the next of its answers, and sets the time when it is due. -/
theorem exists_asked (w : Workshop) (x : Waiting) :
    ∃ a x', w.ask x = ({ w with analyst := a } : Workshop).await x' ∧ Asked w x a x' := by
  have now : ∀ d, some w.clock = some d → w.clock ≤ d := fun d same =>
    Nat.le_of_eq (congrArg Span.nanoseconds (Option.some.inj same))
  have later : ∀ s d, some (w.clock + s) = some d → w.clock ≤ d := fun s d same =>
    Option.some.inj same ▸ Nat.le_add_right _ _
  obtain ⟨b, a, begins⟩ : ∃ b a, w.analyst.begin = (b, a) := ⟨_, _, rfl⟩
  have head : w.analyst.script.headD .answers = b := congrArg Prod.fst begins
  have script : a.script = w.analyst.script.tail := (congrArg (fun p => p.2.script) begins).symm
  simp only [ask, begins]
  cases b with
  | answers =>
    refine ⟨_, _, rfl, script, rfl, rfl, now, fun s answer => ?_⟩
    cases head ▸ answer
    exact ⟨rfl, rfl⟩
  | answersAfter d =>
    refine ⟨_, _, rfl, script, rfl, rfl, later _, fun s answer => ?_⟩
    cases head ▸ answer
    exact ⟨rfl, rfl⟩
  | hangs => exact ⟨_, _, rfl, script, rfl, rfl, nofun, fun s answer => nomatch head ▸ answer⟩
  | fails f => exact ⟨_, _, rfl, script, rfl, rfl, now, fun s answer => nomatch head ▸ answer⟩
  | answersOnRelease =>
    simp only
    split
    · exact ⟨_, _, rfl, script, rfl, rfl, nofun, fun s answer => nomatch head ▸ answer⟩
    · exact ⟨_, _, rfl, script, rfl, rfl, now, fun s answer => nomatch head ▸ answer⟩

/-- An execution that was to ask does, once it has told that it started. -/
theorem exists_proceed (w : Workshop) (x : Waiting) (q : Inquiry) :
    ∃ a x', w.proceed x (.starting q) = w.moved (.told x.number) a x' ∧ Asked w x a x' := by
  obtain ⟨a, x', asks, script, number, ends, due, answer⟩ := exists_asked (w.apply (.told x.number)) x
  exact ⟨a, x', asks, script, number, ends, due, answer⟩

/-- An execution that was to be answered is, and goes on to tell so. -/
theorem exists_answer (w : Workshop) (x : Waiting) (q : Inquiry) :
    ∃ r, w.proceed x (.asking q) = w.moved (.answered x.number r) w.analyst.finish
        { x with due := some (w.clock + (w.telling x.number .finished).ceilMillis) } ∧
      (x.failure = none → r = q.findOffline w.moment.date) :=
  ⟨_, rfl, fun well => by rw [well]⟩

/-- An execution whose limit passes ends, whatever it was at. -/
theorem exists_expire (w : Workshop) (x : Waiting) (work : Work) :
    ∃ a, w.expire x work = w.moved (.overdue x.number) a x ∧ a.script = w.analyst.script := by
  cases work with
  | starting | asking | finishing => exact ⟨_, rfl, rfl⟩

/-- An execution on the clock has the number that the clock has for it. -/
theorem On.number (h : On w x y since work) : y.number = x.number := (Executor.mem_of_get? h.found).2

/-- It is found under its own number. -/
theorem On.own (h : On w x y since work) : w.executor.get? y.number = some y := h.number ▸ h.found

/-- Once it has told that it started, it asks. -/
theorem On.goes_asking {q : Inquiry} (h : On w x y since (.starting q)) (m : Moment) :
    Goes w.executor m y (.told x.number) (.working since (.asking q)) :=
  h.number ▸ .asks h.own h.stage

/-- Once it was answered, it tells so. -/
theorem On.goes_finishing {q : Inquiry} (h : On w x y since (.asking q)) (m : Moment) (f : Finding) :
    Goes w.executor m y (.answered x.number (.ok f)) (.working since (.finishing f)) :=
  h.number ▸ .answered h.own h.stage

/-- When the service fails, it ends. -/
theorem On.ends_unanswered {q : Inquiry} (h : On w x y since (.asking q)) (m : Moment) (f : Failure) :
    Ends w.executor m y (.answered x.number (.error f)) (.unanswered f) :=
  h.number ▸ .unanswered h.own h.stage

/-- Once it has told that it is finished, it ends. -/
theorem On.ends_done {f : Finding} (h : On w x y since (.finishing f)) (m : Moment) :
    Ends w.executor m y (.told x.number) (.done f) :=
  h.number ▸ .done h.own h.stage

/-- When its limit passes, it ends. -/
theorem On.ends_overdue (h : On w x y since work) (m : Moment) :
    Ends w.executor m y (.overdue x.number) .overdue :=
  h.number ▸ .overdue h.own h.stage

/-- To ask is a move. -/
theorem On.asks {q : Inquiry} (h : On w x y since (.starting q)) (asked : Asked w x a x') :
    Moves w x (.told x.number) a x' where
  waiting := h.waiting
  acts := ⟨y, h.found, .inl ⟨_, h.goes_asking _⟩⟩
  number := asked.number
  script := .inr ⟨asked.script, by rw [Executor.left_of_get? h.found, h.stage]; rfl⟩

/-- To be answered is one. -/
theorem On.answered {q : Inquiry} (h : On w x y since (.asking q)) (number : x'.number = x.number)
    (r : Except Failure Finding) : Moves w x (.answered x.number r) w.analyst.finish x' where
  waiting := h.waiting
  acts := by
    refine ⟨y, h.found, ?_⟩
    cases r with
    | ok f => exact .inl ⟨_, h.goes_finishing _ f⟩
    | error f => exact .inr ⟨_, h.ends_unanswered _ f⟩
  number := number
  script := .inl rfl

/-- To be done is one. -/
theorem On.done {f : Finding} (h : On w x y since (.finishing f)) :
    Moves w x (.told x.number) w.analyst x :=
  ⟨h.waiting, ⟨y, h.found, .inr ⟨_, h.ends_done _⟩⟩, rfl, .inl rfl⟩

/-- To be overdue is one. -/
theorem On.overdue (h : On w x y since work) (script : a.script = w.analyst.script) :
    Moves w x (.overdue x.number) a x :=
  ⟨h.waiting, ⟨y, h.found, .inr ⟨_, h.ends_overdue _⟩⟩, rfl, .inl script⟩

/-- A step takes work on that is due, and else ends what is beyond its limit. -/
theorem On.stepOf?_eq (h : On w x y since work) :
    w.stepOf? x = if x.due.any (· ≤ w.clock) then some (w.proceed x work)
      else if x.ends ≤ w.clock then some (w.expire x work) else none := by
  rw [stepOf?, h.found, Option.map_some, h.stage]

/-- A step is one of an execution that is on the clock. -/
theorem Sound.stepped_of_stepOf? (sound : w.Sound) (hx : x ∈ w.waiting) (step : w.stepOf? x = some w') :
    Stepped w w' x.number := by
  obtain ⟨y, since, work, found, stage⟩ := sound.working x hx
  have on : On w x y since work := ⟨hx, found, stage⟩
  rw [on.stepOf?_eq] at step
  split at step
  · cases step
    cases work with
    | starting q =>
      obtain ⟨a, x', proceeds, asked⟩ := w.exists_proceed x q
      rw [proceeds]
      exact (on.asks asked).stepped sound
    | asking q =>
      obtain ⟨r, proceeds, -⟩ := w.exists_answer x q
      rw [proceeds]
      refine Moves.stepped sound (on.answered ?_ r)
      rfl
    | finishing f => exact on.done.stepped sound
  · split at step
    · cases step
      obtain ⟨a, expires, script⟩ := w.exists_expire x work
      rw [expires]
      exact (on.overdue script).stepped sound
    · cases step

/-- Every step is one of an execution on the clock. -/
theorem Sound.of_step? (sound : w.Sound) (step : w.step? = some w') :
    ∃ x ∈ w.waiting, w.stepOf? x = some w' ∧ Stepped w w' x.number := by
  obtain ⟨x, hx, step⟩ := List.exists_of_findSome?_eq_some step
  exact ⟨x, hx, step, sound.stepped_of_stepOf? hx step⟩

/-- What time it is does not matter for what is on the clock. -/
theorem Sound.reach (sound : w.Sound) (c : Span) : (w.reach c).Sound :=
  ⟨sound.executor, sound.once, sound.working⟩

/-! ## Runs -/

/-- A step uses up one unit of fuel. -/
theorem run_of_step? (step : w.step? = some w') (fuel : Nat) : run (fuel + 1) w = run fuel w' := by
  simp only [run, step]

/-- A clock with no step to take stands still. -/
theorem run_of_still (still : w.step? = none) (fuel : Nat) : run fuel w = w := by
  cases fuel with
  | zero => rfl
  | succ fuel => simp only [run, still]

/-- What steps keep: the workshop is sound, there is no more to do, and what has ended has ended. -/
theorem Sound.settles (sound : w.Sound) (fuel : Nat) :
    (w.run fuel).Sound ∧ (w.run fuel).left ≤ w.left ∧ ∀ n, Gone n w.executor →
      Gone n (w.run fuel).executor ∧ (w.run fuel).executor.results n = w.executor.results n := by
  induction fuel generalizing w with
  | zero => exact ⟨sound, Nat.le_refl _, fun n gone => ⟨gone, rfl⟩⟩
  | succ fuel ih =>
    cases step : w.step? with
    | none =>
      rw [run_of_still step]
      exact ⟨sound, Nat.le_refl _, fun n gone => ⟨gone, rfl⟩⟩
    | some w' =>
      obtain ⟨x, hx, -, stepped⟩ := sound.of_step? step
      obtain ⟨later, less, kept⟩ := ih stepped.sound
      rw [run_of_step? step]
      refine ⟨later, Nat.le_trans less (Nat.le_of_lt stepped.left), fun n gone => ?_⟩
      have other : x.number ≠ n := by
        rintro rfl
        obtain ⟨y, since, work, found, -⟩ := sound.working x hx
        cases found.symm.trans gone.absent
      have apart := stepped.apart n other
      obtain ⟨still, results⟩ := kept n
        ⟨apart.get?.trans gone.absent, Nat.lt_of_lt_of_le gone.counted stepped.arrived⟩
      exact ⟨still, results.trans apart.results⟩

/-! ## Timers -/

/-- The earliest of some times, one of which has been found already. -/
theorem foldl_earliest (ts : List Span) (b : Span) :
    ∃ t, ts.foldl (fun best t => some (best.elim t (min t))) (some b) = some t ∧ (t = b ∨ t ∈ ts) ∧
      t ≤ b ∧ ∀ s ∈ ts, t ≤ s := by
  induction ts generalizing b with
  | nil => exact ⟨b, rfl, .inl rfl, Nat.le_refl _, nofun⟩
  | cons u us ih =>
    have lower : (min u b = u ∨ min u b = b) ∧ min u b ≤ u ∧ min u b ≤ b := by
      show ((if u ≤ b then u else b) = u ∨ (if u ≤ b then u else b) = b) ∧
        (if u ≤ b then u else b) ≤ u ∧ (if u ≤ b then u else b) ≤ b
      split
      · next le => exact ⟨.inl rfl, Nat.le_refl _, le⟩
      · next later => exact ⟨.inr rfl, Nat.le_of_not_le later, Nat.le_refl _⟩
    obtain ⟨one, toU, toB⟩ := lower
    obtain ⟨t, folds, among, first, least⟩ := ih (min u b)
    refine ⟨t, folds, ?_, Nat.le_trans first toB, fun s hs => ?_⟩
    · rcases among with rfl | among
      · exact one.symm.imp_right fun same => List.mem_cons.2 (.inl same)
      · exact .inr (List.mem_cons_of_mem u among)
    · rcases List.mem_cons.1 hs with rfl | hs
      · exact Nat.le_trans first toU
      · exact least s hs

/-- A time is the end of a wait or of a limit. -/
def Ticks (x : Waiting) (t : Span) : Prop := t = x.ends ∨ x.due = some t

/-- The timers are those of the executions on the clock. -/
theorem mem_timers {t : Span} : t ∈ w.waiting.flatMap (fun x => x.ends :: x.due.toList) ↔
    ∃ x ∈ w.waiting, Ticks x t := by
  rw [List.mem_flatMap]
  refine exists_congr fun x => and_congr_right fun _ => ?_
  rw [List.mem_cons, Option.mem_toList]
  rfl

/-- While something is on the clock there is a timer, and none ends before the next. -/
theorem exists_nextTimer (hx : x ∈ w.waiting) :
    ∃ t, w.nextTimer? = some t ∧ (∃ z ∈ w.waiting, Ticks z t) ∧
      ∀ z ∈ w.waiting, ∀ s, Ticks z s → t ≤ s := by
  have some' : x.ends ∈ w.waiting.flatMap fun x => x.ends :: x.due.toList :=
    mem_timers.2 ⟨x, hx, .inl rfl⟩
  cases timers : w.waiting.flatMap fun x => x.ends :: x.due.toList with
  | nil => rw [timers] at some'; cases some'
  | cons u us =>
    obtain ⟨t, folds, among, first, least⟩ := foldl_earliest us u
    refine ⟨t, ?_, mem_timers.1 (timers ▸ List.mem_cons.2 among), fun z hz s ticks => ?_⟩
    · rw [nextTimer?, timers]
      exact folds
    · have member := mem_timers.2 ⟨z, hz, ticks⟩
      rw [timers] at member
      rcases List.mem_cons.1 member with rfl | member
      · exact first
      · exact least s member

/-- When a timer of an execution ends, something happens to it. -/
theorem Sound.isSome_step? (sound : w.Sound) (hx : x ∈ w.waiting) (ticks : Ticks x w.clock) :
    w.step?.isSome = true := by
  obtain ⟨y, since, work, found, stage⟩ := sound.working x hx
  refine List.findSome?_isSome_iff.2 ⟨x, hx, ?_⟩
  rw [On.stepOf?_eq ⟨hx, found, stage⟩]
  split
  · rfl
  · next undue =>
    rcases ticks with ends | due
    · have passed : x.ends ≤ w.clock := Nat.le_of_eq (congrArg Span.nanoseconds ends.symm)
      rw [if_pos passed]
      rfl
    · rw [due] at undue
      exact absurd (decide_eq_true (Nat.le_refl _)) undue

/-- There is fuel for all that is on the clock. -/
theorem Sound.left_le_fuel (sound : w.Sound) : w.left ≤ 5 * w.waiting.length := by
  have le := List.sum_le_card_nsmul ((w.waiting.map Waiting.number).map w.executor.left) 3 fun k hk => by
    obtain ⟨n, hn, rfl⟩ := List.mem_map.1 hk
    obtain ⟨z, hz, rfl⟩ := List.mem_map.1 hn
    exact sound.left_le hz
  rw [List.length_map, List.length_map] at le
  have le' : w.left ≤ w.waiting.length * 3 := le
  omega

/-- While an execution is on the clock, something happens next: at once, or when the first timer ends. With
fuel for all steps that are left, there is fuel for those that are left then. -/
theorem Sound.leads (sound : w.Sound) (hx : x ∈ w.waiting) :
    ∃ c w', (w.reach c).step? = some w' ∧
      (c = w.clock ∨ ∀ z ∈ w.waiting, ∀ s, Ticks z s → c ≤ s) ∧
      ∀ k j, (run j w).left ≤ k → w.left ≤ j → ∃ k' j', (run j' w').left ≤ k' ∧ w'.left ≤ j' ∧
        finish k x.number (run j w) = finish k' x.number (run j' w') := by
  cases step : w.step? with
  | some w' =>
    refine ⟨w.clock, w', step, .inl rfl, fun k j hk hj => ?_⟩
    obtain ⟨z, -, -, stepped⟩ := sound.of_step? step
    obtain ⟨j, rfl⟩ := Nat.exists_eq_add_of_lt (Nat.lt_of_lt_of_le stepped.left hj)
    rw [run_of_step? step] at hk ⊢
    exact ⟨k, w'.left + j, hk, Nat.le_add_right _ _, rfl⟩
  | none =>
    obtain ⟨t, timer, ⟨z, hz, ticks⟩, least⟩ := w.exists_nextTimer hx
    obtain ⟨w', step'⟩ := Option.isSome_iff_exists.1 ((sound.reach t).isSome_step? hz ticks)
    refine ⟨t, w', step', .inr least, fun k j hk hj => ?_⟩
    obtain ⟨u, -, -, stepped⟩ := (sound.reach t).of_step? step'
    have less : w'.left < w.left := stepped.left
    rw [run_of_still step] at hk ⊢
    obtain ⟨k, rfl⟩ := Nat.exists_eq_add_of_lt (Nat.lt_of_lt_of_le less hk)
    obtain ⟨j', enough⟩ := Nat.exists_eq_add_of_lt (Nat.lt_of_lt_of_le less sound.left_le_fuel)
    obtain ⟨y, since, work, found, -⟩ := sound.working x hx
    have settled : (w.reach t).settle = run (w'.left + j') w' := by
      show run (5 * w.waiting.length) (w.reach t) = _
      rw [enough]
      exact run_of_step? step' _
    refine ⟨w'.left + k, w'.left + j', ?_, Nat.le_add_right _ _, ?_⟩
    · exact Nat.le_trans (stepped.sound.settles _).2.1 (Nat.le_add_right _ _)
    · rw [finish, found, timer]
      exact congrArg (finish _ x.number) settled

/-! ## What keeps a workshop sound -/

/-- Nothing is on the clock of a new workshop. -/
theorem sound_new {e : Executor} (sound : e.Sound) (a : Analyst) (telling : Span) (date : Instant) :
    (new e a telling date).Sound := ⟨sound, List.nodup_nil, nofun⟩

/-- What is on the clock has arrived. -/
theorem Sound.counted (sound : w.Sound) (hx : x ∈ w.waiting) : x.number < w.executor.arrived := by
  obtain ⟨y, since, work, found, -⟩ := sound.working x hx
  obtain ⟨member, number⟩ := Executor.mem_of_get? found
  exact number ▸ sound.executor.counted y member

/-- An event of an execution that is not on the clock. -/
theorem Sound.apply (sound : w.Sound) (off : ∀ x ∈ w.waiting, w.executor.about v ≠ x.number) :
    (w.apply v).Sound := by
  refine ⟨sound.executor.apply _ v, sound.once, fun x hx => ?_⟩
  obtain ⟨y, since, work, found, stage⟩ := sound.working x hx
  exact ⟨y, since, work, (Executor.apart_apply _ _ v (off x hx)).get?.trans found, stage⟩

/-- An execution that the breaker let through comes onto the clock. -/
theorem Sound.enter (sound : w.Sound) (found : w.executor.get? x.number = some y)
    (stage : y.stage = .working since work) (off : ∀ z ∈ w.waiting, z.number ≠ x.number) :
    ({ w with waiting := w.waiting ++ [x] } : Workshop).Sound := by
  refine ⟨sound.executor, ?_, fun z hz => ?_⟩
  · rw [List.map_append, List.nodup_append]
    refine ⟨sound.once, List.nodup_singleton _, fun n hn k hk => ?_⟩
    obtain ⟨z, hz, rfl⟩ := List.mem_map.1 hn
    rw [List.map_singleton, List.mem_singleton] at hk
    exact hk ▸ off z hz
  · rcases List.mem_append.1 hz with hz | hz
    · exact sound.working z hz
    · rw [List.mem_singleton.1 hz]
      exact ⟨y, since, work, found, stage⟩

/-- Taking all steps that are due leaves a workshop sound. -/
theorem Sound.settle (sound : w.Sound) : w.settle.Sound := (sound.settles _).1

/-- So does the arrival of a task. -/
theorem Sound.arrive (sound : w.Sound) (t : Task) : (w.arrive t).2.Sound := by
  have off : ∀ z ∈ w.waiting, z.number ≠ w.executor.arrived := fun z hz => Nat.ne_of_lt (sound.counted hz)
  have joined : (w.apply (.arrive t)).Sound := sound.apply fun z hz => (off z hz).symm
  obtain ⟨v, comes, acts⟩ : ∃ v, (v = .begin w.executor.arrived ∨ v = .cancel w.executor.arrived) ∧
      (if (w.apply (.arrive t)).cancelled then (w.apply (.arrive t)).apply (.cancel w.executor.arrived)
        else (w.apply (.arrive t)).apply (.begin w.executor.arrived)) = (w.apply (.arrive t)).apply v := by
    split
    · exact ⟨_, .inr rfl, rfl⟩
    · exact ⟨_, .inl rfl, rfl⟩
  have about : (w.apply (.arrive t)).executor.about v = w.executor.arrived := by
    rcases comes with rfl | rfl
    · rfl
    · rfl
  have came : ((w.apply (.arrive t)).apply v).Sound := joined.apply fun z hz => about ▸ (off z hz).symm
  simp only [Workshop.arrive, acts]
  split
  · next y found =>
    obtain ⟨since, work, stage⟩ := Executor.working_of_arrival sound.executor _ _ t comes found
    exact (came.enter (x := Waiting.mk _ _ _ _ _) found stage off).settle
  · exact came

/-- So does time that passes. -/
theorem Sound.advance (sound : w.Sound) (s : Span) : (w.advance s).Sound := (sound.reach _).settle

/-- So does waiting for an execution. -/
theorem Sound.finish (sound : w.Sound) (fuel n : Nat) : (finish fuel n w).Sound := by
  induction fuel generalizing w with
  | zero => exact sound
  | succ fuel ih =>
    unfold Workshop.finish
    split
    · next c _ _ => exact ih (sound.reach c).settle
    · exact sound

/-- So does executing a task to its end. -/
theorem Sound.execute (sound : w.Sound) (t : Task) : (w.execute t).2.Sound := (sound.arrive t).finish _ _

/-- What an execution waits for may change; which execution it is does not. -/
theorem Sound.rearrange (sound : w.Sound) {f : Waiting → Waiting} (number : ∀ x, (f x).number = x.number)
    (a : Analyst) : Sound { w with analyst := a, waiting := w.waiting.map f } := by
  refine ⟨sound.executor, ?_, fun z hz => ?_⟩
  · have same : (w.waiting.map f).map Waiting.number = w.waiting.map Waiting.number := by
      rw [List.map_map]
      exact List.map_congr_left fun x _ => number x
    exact same ▸ sound.once
  · obtain ⟨x, hx, rfl⟩ := List.mem_map.1 hz
    rw [number]
    exact sound.working x hx

/-- So does letting the service answer. -/
theorem Sound.release (sound : w.Sound) (n : Nat) : (w.release n).Sound := by
  refine Sound.settle (sound.rearrange (fun x => ?_) _)
  split
  · rfl
  · rfl

/-- When the worker stops nothing is left on the clock. -/
theorem Sound.cancel (sound : w.Sound) : w.cancel.Sound := by
  have stops : ∀ (xs : List Execution) (w : Workshop), w.executor.Sound →
      (xs.foldl stop w).executor.Sound := by
    intro xs
    induction xs with
    | nil => exact fun _ sound => sound
    | cons x xs ih =>
      refine fun w sound => ih _ ?_
      unfold stop
      split
      · exact sound.apply w.moment.next (.cancel x.number)
      · exact sound.apply w.moment.next (.cancel x.number)
  exact ⟨stops _ w sound.executor, List.nodup_nil, nofun⟩

end

end Workshop

end WorkDispatch.Worker
