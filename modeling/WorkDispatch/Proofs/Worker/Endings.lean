import WorkDispatch.Proofs.Job
import WorkDispatch.Proofs.Worker.Turns
import WorkDispatch.Worker.Client

/-!
# Every execution ends once

Whatever happens to an executor, an execution whose limit passes once it came to the breaker, or which
is stopped, ends: with one result, counted once in the book, and told to the breaker if what is behind
it came to its end or to its limit. A `Life` is all that happens from some event on until an execution
ends. `exists_life` finds it, by what one event does (`turn_of_found`), and each part of an `Account` is
an induction on it.

What is added to a count on behalf of an execution is added by the events about it; the others go on in
between. Nothing is said of how long an execution takes.
-/

set_option autoImplicit false

namespace WorkDispatch

/-! ## Findings -/

/-- Insights with the same document are the same. -/
theorem Insight.toJson_inj {i j : Insight} : i.toJson = j.toJson ↔ i = j := by
  refine ⟨fun same => ?_, congrArg toJson⟩
  obtain ⟨user, kind, summary, count, generated⟩ := i
  obtain ⟨user', kind', summary', count', generated'⟩ := j
  simp only [toJson, Json.ofNat, Json.Tree.object.injEq, List.cons.injEq, Prod.mk.injEq,
    Json.Tree.string.injEq, Json.Tree.number.injEq, Json.Number.integer.injEq, Int.natCast_inj,
    Json.ofInstant_inj, true_and, and_true] at same
  obtain ⟨rfl, rfl, rfl, rfl, rfl⟩ := same
  rfl

/-- Weekly reports with the same document are the same. -/
theorem WeeklyReport.toJson_inj {r s : WeeklyReport} : r.toJson = s.toJson ↔ r = s := by
  refine ⟨fun same => ?_, congrArg toJson⟩
  obtain ⟨user, starts, ends, summary, generated⟩ := r
  obtain ⟨user', starts', ends', summary', generated'⟩ := s
  simp only [toJson, Json.Tree.object.injEq, List.cons.injEq, Prod.mk.injEq, Json.Tree.string.injEq,
    Json.ofInstant_inj, true_and, and_true] at same
  obtain ⟨rfl, rfl, rfl, rfl, rfl⟩ := same
  rfl

/-- An insight and a weekly report differ in the names of their members. -/
theorem Insight.toJson_ne_toJson (i : Insight) (r : WeeklyReport) : i.toJson ≠ r.toJson := by
  simp [toJson, WeeklyReport.toJson]

namespace Worker

/-- Findings with the same document are the same. -/
theorem Finding.toJson_inj {f g : Finding} : f.toJson = g.toJson ↔ f = g := by
  cases f with
  | insight i =>
    cases g with
    | insight j => exact Insight.toJson_inj.trans ⟨congrArg insight, insight.inj⟩
    | weekly s => exact ⟨fun same => absurd same (i.toJson_ne_toJson s), nofun⟩
  | weekly r =>
    cases g with
    | insight j => exact ⟨fun same => absurd same.symm (j.toJson_ne_toJson r), nofun⟩
    | weekly s => exact WeeklyReport.toJson_inj.trans ⟨congrArg weekly, weekly.inj⟩

/-- The bytes of a finding are read as its document, and as that of no other. -/
theorem Finding.read?_encode (f g : Finding) : Json.read? f.encode = some g.toJson ↔ g = f := by
  rw [encode, Json.read?_write, Option.some_inj, toJson_inj, eq_comm]

/-! ## Stages -/

/-- Whether the service is asked at a stage. -/
def Stage.isAsking : Stage → Bool
  | .working _ (.asking _) => true
  | _ => false

/-- How often an execution may still ask the service: once, until it did, if its task is an inquiry. -/
def Execution.inquiries (x : Execution) : Nat :=
  match x.stage with
  | .arrived => if (Inquiry.ofTask x.task).isOk then 1 else 0
  | .working _ (.starting _) => 1
  | _ => 0

/-- The report of a result is a matter of the connection. -/
theorem Client.workshop_report {σ : Type} (c : Client σ) (remote : Remote σ) (r : TaskResult) :
    (c.report remote r).2.workshop = c.workshop := by
  unfold report
  split
  · next e c' called =>
    have same := congrArg (fun q => q.2.workshop) called
    exact same.symm
  · next a c' called =>
    have same := congrArg (fun q => q.2.workshop) called
    exact same.symm

namespace Executor

/-! ## Numbers -/

/-- Nothing has a number that is still to come. -/
structure Sound (e : Executor) : Prop extends Orderly e where
  past : ∀ p ∈ e.ended, p.1 < e.arrived

section

variable {e : Executor} {x : Execution} {v : Event} {k : Ending} {n : Nat}

/-- Nothing has ended before anything arrives. -/
theorem sound_new (workerId : String) (taskTimeout : Span) (c : Breaker.Config)
    (complaint : TaskType → Bytes → String) : (new workerId taskTimeout c complaint).Sound :=
  ⟨new_orderly workerId taskTimeout c complaint, fun _ h => absurd h List.not_mem_nil⟩

/-- The next number is nobody's. -/
theorem Sound.fresh (h : e.Sound) : e.get? e.arrived = none ∧ e.results e.arrived = [] := by
  refine ⟨List.find?_eq_none.2 fun x hx same => ?_, ?_⟩
  · exact absurd (beq_iff_eq.1 same) (Nat.ne_of_lt (h.counted x hx))
  · rw [results, List.filter_eq_nil_iff.2 fun p hp same => ?_]
    · rfl
    · exact absurd (beq_iff_eq.1 same) (Nat.ne_of_lt (h.past p hp))

/-- An event gives no number twice. -/
theorem Sound.apply (h : e.Sound) (m : Moment) (v : Event) : (e.apply m v).Sound := by
  refine ⟨apply_orderly h.toOrderly m v, ?_⟩
  have turn := does_apply e m v
  generalize e.apply m v = e' at turn
  cases turn with
  | nothing => exact h.past
  | joins => exact fun p hp => Nat.lt_succ_of_lt (h.past p hp)
  | goes => exact h.past
  | @ends x v k b c ends =>
    have earlier : ∀ p ∈ e.ended, p.1 < e.arrived + if k = .late then 1 else 0 := fun p hp =>
      Nat.lt_of_lt_of_le (h.past p hp) (Nat.le_add_right _ _)
    have own : x.number < e.arrived + if k = .late then 1 else 0 := by
      rcases ends.found_or_late with found | ⟨number, late⟩
      · exact Nat.lt_of_lt_of_le (h.counted x (mem_of_get? found).1) (Nat.le_add_right _ _)
      · rw [if_pos late, number]
        exact Nat.lt_succ_self _
    rintro p hp
    rcases List.mem_cons.1 hp with rfl | hp
    · exact own
    · exact earlier p hp

/-- Nor do any events. -/
theorem Sound.applyAll (h : e.Sound) (es : List (Moment × Event)) : (e.applyAll es).Sound := by
  induction es generalizing e with
  | nil => exact h
  | cons p es ih => exact ih (h.apply p.1 p.2)

/-! ## Counting for one execution -/

/-- What the events about an execution add to a count. -/
def gained (f : Executor → Nat) (n : Nat) : Executor → List (Moment × Event) → Int
  | _, [] => 0
  | e, (m, v) :: es =>
    (if e.about v = n then (f (e.apply m v) : Int) - f e else 0) + gained f n (e.apply m v) es

/-- Whether an execution asks the service. -/
def isAsking (e : Executor) (n : Nat) : Bool := (e.get? n).any fun x => x.stage.isAsking

/-- How often an execution comes to ask the service. -/
def asked (n : Nat) : Executor → List (Moment × Event) → Nat
  | _, [] => 0
  | e, (m, v) :: es =>
    (if !e.isAsking n && (e.apply m v).isAsking n then 1 else 0) + asked n (e.apply m v) es

theorem applyAll_cons (e : Executor) (m : Moment) (v : Event) (es : List (Moment × Event)) :
    e.applyAll ((m, v) :: es) = (e.apply m v).applyAll es := rfl

/-- Nothing is added any more on behalf of an execution that has ended. -/
theorem Gone.rest (gone : Gone n e) (f : Executor → Nat) (es : List (Moment × Event)) :
    gained f n e es = 0 ∧ asked n e es = 0 ∧ (e.applyAll es).results n = e.results n := by
  induction es generalizing e with
  | nil => exact ⟨rfl, rfl, rfl⟩
  | cons p es ih =>
    obtain ⟨m, v⟩ := p
    obtain ⟨next, results⟩ := gone.apply m v
    obtain ⟨added, asks, rest⟩ := ih next
    refine ⟨?_, ?_, ?_⟩
    · have none : (if e.about v = n then (f (e.apply m v) : Int) - f e else 0) = 0 := by
        split
        · next own => rw [gone.same own, Int.sub_self]
        · rfl
      rw [gained, none, added]
      rfl
    · have silent : (e.apply m v).isAsking n = false := by
        rw [isAsking, next.absent]
        rfl
      rw [asked, silent, asks, Bool.and_false]
      rfl
    · rw [applyAll_cons, rest, results]

/-! ## Lives -/

/-- What must still happen to an execution for its limit to pass behind the breaker. -/
def Stage.ahead (n : Nat) : Stage → List Event
  | .arrived => [.begin n, .overdue n]
  | .working .. => [.overdue n]

/-- Among some events an execution is stopped, or its limit passes once it came to the breaker. -/
def IsDue (x : Execution) (vs : List Event) : Prop :=
  .cancel x.number ∈ vs ∨ (Stage.ahead x.number x.stage).Sublist vs

/-- What happens until an execution ends, and after it. -/
inductive Life : Executor → Execution → List (Moment × Event) → Ending → Prop
  | waits {e : Executor} {m : Moment} {v : Event} {x : Execution} {es : List (Moment × Event)}
    {k : Ending} (found : e.get? x.number = some x) (waits : Waits e m v x)
    (rest : Life (e.apply m v) x es k) : Life e x ((m, v) :: es) k
  | onward {e : Executor} {m : Moment} {v : Event} {x : Execution} {s : Stage}
    {es : List (Moment × Event)} {k : Ending} (goes : Goes e m x v s)
    (onward : Onward e (e.apply m v) x s) (rest : Life (e.apply m v) { x with stage := s } es k) :
    Life e x ((m, v) :: es) k
  | ends {e : Executor} {m : Moment} {v : Event} {x : Execution} {k : Ending}
    (ends : Ends e m x v k) (closed : Over e (e.apply m v) m x k) (es : List (Moment × Event)) :
    Life e x ((m, v) :: es) k

/-- What does not concern an execution leaves what is due. -/
theorem IsDue.of_idle {vs : List Event} (due : IsDue x (v :: vs)) (idle : Idle v x) : IsDue x vs := by
  rcases due with stopped | passes
  · rcases List.mem_cons.1 stopped with rfl | stopped
    · exact absurd rfl idle.cancel
    · exact .inl stopped
  · cases stage : x.stage with
    | arrived =>
      rw [stage] at passes
      refine .inr ?_
      rw [stage]
      exact passes.of_cons_of_ne (idle.begin stage).symm
    | working since w =>
      rw [stage] at passes
      refine .inr ?_
      rw [stage]
      refine passes.of_cons_of_ne (Ne.symm (idle.overdue ?_))
      rw [stage]
      exact nofun

/-- An execution that goes on still has its end ahead. -/
theorem IsDue.of_goes {vs : List Event} {m : Moment} {s : Stage} (due : IsDue x (v :: vs))
    (goes : Goes e m x v s) : IsDue { x with stage := s } vs := by
  rcases due with stopped | passes
  · refine .inl ((List.mem_cons.1 stopped).resolve_left ?_)
    rintro same
    rw [← same] at goes
    cases goes
  · refine .inr ?_
    cases goes with
    | begins found stage =>
      rw [stage] at passes
      exact List.cons_sublist_cons.1 passes
    | asks found stage =>
      have other : Event.overdue x.number ≠ .told x.number := nofun
      rw [stage] at passes
      exact passes.of_cons_of_ne other
    | @answered since q f found stage =>
      have other : Event.overdue x.number ≠ .answered x.number (.ok f) := nofun
      rw [stage] at passes
      exact passes.of_cons_of_ne other

/-- An execution that is due ends, and there is a life of each that has ended. -/
theorem exists_life {es : List (Moment × Event)} (found : e.get? x.number = some x)
    (counted : x.number < e.arrived)
    (due : IsDue x (es.map Prod.snd) ∨ (e.applyAll es).get? x.number = none) : ∃ k, Life e x es k := by
  induction es generalizing e x with
  | nil =>
    rcases due with (stopped | passes) | ended
    · cases stopped
    · cases stage : x.stage with
      | arrived | working =>
        rw [stage] at passes
        cases passes
    · cases found.symm.trans ended
  | cons p es ih =>
    obtain ⟨m, v⟩ := p
    rw [applyAll_cons, List.map_cons] at due
    have later := Nat.lt_of_lt_of_le counted (apply_keeps e m v).2.2
    rcases turn_of_found found counted m v with waits | ⟨s, goes, onward⟩ | ⟨k, ends, closed⟩
    · obtain ⟨k, life⟩ := ih waits.found later (due.imp_left fun due => due.of_idle waits.idle)
      exact ⟨k, .waits found waits life⟩
    · obtain ⟨k, life⟩ := ih (x := { x with stage := s }) onward.found later
        (due.imp_left fun due => due.of_goes goes)
      exact ⟨k, .onward goes onward life⟩
    · exact ⟨k, .ends ends closed es⟩

/-! ## What a life adds up to -/

section

variable {es : List (Moment × Event)}

theorem gained_cons (f : Executor → Nat) (n : Nat) (e : Executor) (m : Moment) (v : Event)
    (es : List (Moment × Event)) :
    gained f n e ((m, v) :: es) =
      (if e.about v = n then (f (e.apply m v) : Int) - f e else 0) + gained f n (e.apply m v) es := rfl

/-- A count of the book or the breaker changes on behalf of an execution as it ends. -/
theorem Life.gained {g : Ledger → Nat} {d : Nat} (life : Life e x es k)
    (adds : ∀ l, g (l.close k) = g l + d) : gained (fun e => g e.ledger) x.number e es = d := by
  induction life with
  | @waits e m v x es k found waits rest ih =>
    rw [gained_cons, ih adds]
    split
    · next own => rw [waits.same own, Int.sub_self, Int.zero_add]
    · exact Int.zero_add _
  | onward goes onward rest ih =>
    rw [gained_cons, if_pos goes.about, onward.ledger, Int.sub_self, Int.zero_add]
    exact ih adds
  | ends ends closed es =>
    rw [gained_cons, if_pos ends.about, closed.ledger, adds, (closed.gone.rest _ es).1]
    omega

/-- What an end comes to does not depend on the stage. -/
theorem outcome_staged (component : String) (x : Execution) (s : Stage) (k : Ending) :
    k.outcome component { x with stage := s } = k.outcome component x := by
  cases k with
  | late | rejected | unfit | unanswered | done | overdue | stopped => rfl

/-- A result depends on the executor by the name of its worker alone. -/
theorem resultOf_congr {e' : Executor} (worker : e'.workerId = e.workerId) (x : Execution) (date : Instant)
    (r : Except Failure Finding) : e'.resultOf x date r = e.resultOf x date r := by
  cases r with
  | ok f => simp only [resultOf, worker]
  | error f => simp only [resultOf, worker]

/-- A life ends in one of its events, with one more result and no entry in the book. -/
theorem Life.last (life : Life e x es k) :
    ∃ before m v after s, es = before ++ (m, v) :: after ∧
      Ends (e.applyAll before) m { x with stage := s } v k ∧
      ((e.applyAll before).apply m v).book.get? x.task.id = none ∧
      (e.applyAll es).results x.number =
        e.resultOf x m.date (k.outcome e.breaker.name x) :: e.results x.number := by
  induction life with
  | @waits e m v x es k found waits rest ih =>
    obtain ⟨before, m', v', after, s, rfl, ends, cleared, results⟩ := ih
    obtain ⟨worker, name, -⟩ := apply_keeps e m v
    refine ⟨(m, v) :: before, m', v', after, s, rfl, ends, cleared, results.trans ?_⟩
    rw [resultOf_congr worker, name, waits.results]
  | @onward e m v x s es k goes onward rest ih =>
    obtain ⟨before, m', v', after, s', rfl, ends, cleared, results⟩ := ih
    obtain ⟨worker, name, -⟩ := apply_keeps e m v
    refine ⟨(m, v) :: before, m', v', after, s', rfl, ends, cleared, results.trans ?_⟩
    rw [resultOf_congr worker, name, outcome_staged, onward.results]
    rfl
  | @ends e m v x k ends closed es =>
    refine ⟨[], m, v, es, x.stage, rfl, ends, closed.cleared, ?_⟩
    rw [applyAll_cons, (closed.gone.rest (fun _ => 0) es).2.2, closed.results]

/-- An execution that has arrived is not late. -/
theorem Life.timely (life : Life e x es k) (counted : x.number < e.arrived) : k ≠ .late := by
  induction life with
  | @waits e m v x es k found waits rest ih =>
    exact ih (Nat.lt_of_lt_of_le counted (apply_keeps e m v).2.2)
  | @onward e m v x s es k goes onward rest ih =>
    exact ih (Nat.lt_of_lt_of_le counted (apply_keeps e m v).2.2)
  | ends ends closed es =>
    rcases ends.found_or_late with found | ⟨number, -⟩
    · rintro rfl
      cases ends
      exact absurd counted (Nat.lt_irrefl _)
    · exact absurd number (Nat.ne_of_lt counted)

/-- An execution asks when its stage says so. -/
theorem isAsking_of_found (found : e.get? x.number = some x) : e.isAsking x.number = x.stage.isAsking := by
  rw [isAsking, found]
  rfl

theorem asked_cons (n : Nat) (e : Executor) (m : Moment) (v : Event) (es : List (Moment × Event)) :
    asked n e ((m, v) :: es) =
      (if !e.isAsking n && (e.apply m v).isAsking n then 1 else 0) + asked n (e.apply m v) es := rfl

/-- An event that leaves an execution where it is asks nothing for it. -/
theorem asked_of_waits {m : Moment} (found : e.get? x.number = some x) (waits : Waits e m v x) :
    asked x.number e ((m, v) :: es) = asked x.number (e.apply m v) es := by
  rw [asked_cons, isAsking_of_found found, isAsking_of_found waits.found, Bool.not_and_self]
  exact Nat.zero_add _

/-- From its end on, nothing is asked for an execution. -/
theorem asked_of_ends {m : Moment} (closed : Over e (e.apply m v) m x k) :
    asked x.number e ((m, v) :: es) = 0 := by
  have silent : (e.apply m v).isAsking x.number = false := by
    rw [isAsking, closed.gone.absent]
    rfl
  rw [asked_cons, silent, Bool.and_false, (closed.gone.rest (fun _ => 0) es).2.1]
  rfl

/-- No execution asks the service more than once, and none whose task is no inquiry asks it. -/
theorem Life.asked_le (life : Life e x es k) : asked x.number e es ≤ x.inquiries := by
  induction life with
  | waits found waits rest ih =>
    rw [asked_of_waits found waits]
    exact ih
  | @onward e m v x s es k goes onward rest ih =>
    have after : (e.apply m v).isAsking x.number = s.isAsking :=
      isAsking_of_found (x := { x with stage := s }) onward.found
    rw [asked_cons, isAsking_of_found goes.found, after]
    cases goes with
    | begins found stage allowed reads =>
      rw [stage, Execution.inquiries, stage, reads]
      exact Nat.le_trans (Nat.le_of_eq (Nat.zero_add _)) ih
    | asks found stage =>
      rw [stage, Execution.inquiries, stage]
      exact Nat.add_le_add_left ih 1
    | answered found stage =>
      rw [stage, Execution.inquiries, stage]
      exact Nat.le_trans (Nat.le_of_eq (Nat.zero_add _)) ih
  | ends ends closed es =>
    rw [asked_of_ends closed]
    exact Nat.zero_le _

/-- An execution that the breaker turned away has asked for nothing. -/
theorem Life.unasked (life : Life e x es k) (turned : k = .rejected) :
    x.stage = .arrived ∧ asked x.number e es = 0 := by
  induction life with
  | waits found waits rest ih =>
    rw [asked_of_waits found waits]
    exact ih turned
  | onward goes onward rest ih =>
    have still := (ih turned).1
    cases goes with
    | begins | asks | answered => cases still
  | ends ends closed es =>
    subst turned
    cases ends with
    | rejected found stage => exact ⟨stage, asked_of_ends closed⟩

/-- What an execution that is done has found is what the service answered. -/
theorem Life.answer {f : Finding} (life : Life e x es k) (done : k = .done f) :
    (∃ since, x.stage = .working since (.finishing f)) ∨ ∃ m, (m, .answered x.number (.ok f)) ∈ es := by
  induction life with
  | waits found waits rest ih =>
    rcases ih done with stage | ⟨m, answered⟩
    · exact .inl stage
    · exact .inr ⟨m, List.mem_cons_of_mem _ answered⟩
  | onward goes onward rest ih =>
    rcases ih done with ⟨since, stage⟩ | ⟨m, answered⟩
    · cases goes with
      | begins | asks => cases stage
      | answered =>
        cases stage
        exact .inr ⟨_, List.mem_cons_self⟩
    · exact .inr ⟨m, List.mem_cons_of_mem _ answered⟩
  | ends ends closed es =>
    subst done
    cases ends with
    | @done _ since _ found stage => exact .inl ⟨since, stage⟩

end

/-! ## Accounts -/

/-- A result tells what an execution came to: what it has found can be read off the result, and nothing
else can. -/
inductive Reports (r : TaskResult) : Except Failure Finding → Prop
  | completed {f : Finding} (status : r.status = .completed) (message : r.errorMessage = "")
    (result : r.result = f.encode)
    (reads : ∀ g : Finding, Json.read? r.result = some g.toJson ↔ g = f) : Reports r (.ok f)
  | cancelled {f : Failure} {why : String} (root : f.root = .cancelled why)
    (status : r.status = .cancelled) (message : r.errorMessage = f.message) (result : r.result = []) :
    Reports r (.error f)
  | failed {f : Failure} (root : ∀ why, f.root ≠ .cancelled why) (status : r.status = .failed)
    (message : r.errorMessage = f.message) (result : r.result = []) : Reports r (.error f)

/-- The result of an execution tells what it came to. -/
theorem reports_resultOf (e : Executor) (x : Execution) (date : Instant) (r : Except Failure Finding) :
    Reports (e.resultOf x date r) r := by
  cases r with
  | ok f => exact .completed rfl rfl rfl f.read?_encode
  | error f =>
    by_cases cancelled : ∃ why, f.root = .cancelled why
    · obtain ⟨why, root⟩ := cancelled
      refine .cancelled root ?_ rfl rfl
      simp only [resultOf, root]
    · refine .failed (fun why root => cancelled ⟨why, root⟩) ?_ rfl rfl
      simp only [resultOf]
      split
      · next why root => exact absurd ⟨why, root⟩ cancelled
      · rfl

/-- The account of the execution of a task that arrives at a moment, before other events: how it ended
and its result. -/
structure Account (e : Executor) (m : Moment) (t : Task) (es : List (Moment × Event)) (k : Ending)
    (r : TaskResult) : Prop where
  /-- It ended in one of the events, and this took it out of the book. -/
  ended : ∃ before m' v after x, (m, .arrive t) :: es = before ++ (m', v) :: after ∧
    x.number = e.arrived ∧ x.task = t ∧ Ends (e.applyAll before) m' x v k ∧
    ((e.applyAll before).apply m' v).book.get? t.id = none
  result : (e.applyAll ((m, .arrive t) :: es)).results e.arrived = [r]
  task : r.taskId = t.id
  worker : r.workerId = e.workerId
  reports : Reports r (k.outcome e.breaker.name (e.newcomer m t))
  late : k = .late ↔ t.isPastDeadline m.date = true
  answer : ∀ f, k = .done f → ∃ m', (m', .answered e.arrived (.ok f)) ∈ es
  /-- It is counted once in the book. -/
  completed : gained (fun e => e.book.completed) e.arrived e ((m, .arrive t) :: es) =
    if k.succeeds then 1 else 0
  failed : gained (fun e => e.book.failed) e.arrived e ((m, .arrive t) :: es) =
    if k.succeeds then 0 else 1
  /-- The breaker is told of what came to its end or to its limit behind it. -/
  told : gained (fun e => e.breaker.metrics.totalCalls) e.arrived e ((m, .arrive t) :: es) =
    if k.isTold then 1 else 0
  turnedAway : gained (fun e => e.breaker.metrics.rejectedCalls) e.arrived e ((m, .arrive t) :: es) =
    if k = .rejected then 1 else 0
  untouched : k = .late → ∀ f : Breaker → Nat,
    gained (fun e => f e.breaker) e.arrived e ((m, .arrive t) :: es) = 0
  /-- It asks the service once at most. -/
  asked : asked e.arrived e ((m, .arrive t) :: es) ≤ 1
  unasked : k = .late ∨ k = .rejected ∨ (∃ f, Inquiry.ofTask t = .error f) →
    Executor.asked e.arrived e ((m, .arrive t) :: es) = 0

section

variable {m : Moment} {t : Task} {es : List (Moment × Event)}

/-- A result bears the id of its task and the name of its worker. -/
theorem resultOf_ids (e : Executor) (x : Execution) (date : Instant) (r : Except Failure Finding) :
    (e.resultOf x date r).taskId = x.task.id ∧ (e.resultOf x date r).workerId = e.workerId := by
  cases r with
  | ok f => exact ⟨rfl, rfl⟩
  | error f => exact ⟨rfl, rfl⟩

/-- The arrival of a task is the first event about its execution. -/
theorem gained_arrival (f : Executor → Nat) (e : Executor) (m : Moment) (t : Task)
    (es : List (Moment × Event)) :
    gained f e.arrived e ((m, .arrive t) :: es) =
      (f (e.apply m (.arrive t)) : Int) - f e + gained f e.arrived (e.apply m (.arrive t)) es :=
  congrArg (· + _) (if_pos rfl)

/-- There is an account of a task that arrives after its deadline: it ends where it arrives. -/
theorem account_of_late (h : e.Sound) (past : t.isPastDeadline m.date = true)
    (es : List (Moment × Event)) : ∃ r, Account e m t es .late r := by
  obtain ⟨closed, breaker⟩ := over_arrival (e := e) past
  have life : Life e (e.newcomer m t) ((m, .arrive t) :: es) .late := .ends (.late past) closed es
  have asked : asked e.arrived e ((m, .arrive t) :: es) = 0 := asked_of_ends closed
  refine ⟨e.resultOf (e.newcomer m t) m.date (Ending.late.outcome e.breaker.name (e.newcomer m t)), {
    ended := ⟨[], m, .arrive t, es, e.newcomer m t, rfl, rfl, rfl, .late past, closed.cleared⟩
    result := ?_
    task := (resultOf_ids e (e.newcomer m t) m.date _).1
    worker := (resultOf_ids e (e.newcomer m t) m.date _).2
    reports := reports_resultOf e (e.newcomer m t) m.date _
    late := ⟨fun _ => past, fun _ => rfl⟩
    answer := fun _ done => nomatch done
    completed := life.gained (g := Ledger.completed) (d := 0) fun _ => rfl
    failed := life.gained (g := Ledger.failed) (d := 1) fun _ => rfl
    told := life.gained (g := Ledger.total) (d := 0) fun _ => rfl
    turnedAway := life.gained (g := Ledger.rejected) (d := 0) fun _ => rfl
    untouched := fun _ f => ?_
    asked := Nat.le_trans (Nat.le_of_eq asked) (Nat.zero_le 1)
    unasked := fun _ => asked }⟩
  · rw [applyAll_cons]
    exact ((closed.gone.rest (fun _ => 0) es).2.2.trans closed.results).trans (congrArg _ h.fresh.2)
  · rw [gained_arrival, breaker, Int.sub_self, Int.zero_add]
    exact (closed.gone.rest (fun e => f e.breaker) es).1

/-- There is an account of every other task, read off the life of its execution. -/
theorem account_of_timely (h : e.Sound) (timely : t.isPastDeadline m.date = false)
    (due : IsDue (e.newcomer m t) (es.map Prod.snd) ∨
      ((e.apply m (.arrive t)).applyAll es).get? e.arrived = none) : ∃ k r, Account e m t es k r := by
  obtain ⟨joined, counted⟩ := onward_arrival (e := e) timely h.fresh.1
  obtain ⟨k, life⟩ := exists_life (x := e.newcomer m t) joined.found counted due
  obtain ⟨before, m', v, after, s, split, ends, cleared, results⟩ := life.last
  obtain ⟨worker, name, -⟩ := apply_keeps e m (.arrive t)
  have fresh : e.results (e.newcomer m t).number = [] := h.fresh.2
  rw [resultOf_congr worker, name, joined.results, fresh] at results
  -- Every figure of the ledger is gained at the end of the life and nowhere else, so one lemma does
  -- for all of them.
  have added : ∀ (g : Ledger → Nat) (d : Nat), (∀ l, g (l.close k) = g l + d) →
      gained (fun e => g e.ledger) e.arrived e ((m, .arrive t) :: es) = d := by
    intro g d adds
    rw [gained_arrival, joined.ledger, Int.sub_self, Int.zero_add]
    exact life.gained adds
  have onTime := life.timely counted
  have asked : asked e.arrived e ((m, .arrive t) :: es) = asked e.arrived (e.apply m (.arrive t)) es := by
    have silent : (e.apply m (.arrive t)).isAsking e.arrived = false := isAsking_of_found joined.found
    rw [asked_cons, silent, Bool.and_false]
    exact Nat.zero_add _
  have few : Executor.asked e.arrived (e.apply m (.arrive t)) es ≤
      if (Inquiry.ofTask t).isOk then 1 else 0 := life.asked_le
  refine ⟨k, _, {
    ended := ⟨(m, .arrive t) :: before, m', v, after, _, by rw [split]; rfl, rfl, rfl, ends, cleared⟩
    result := results
    task := (resultOf_ids e (e.newcomer m t) m'.date _).1
    worker := (resultOf_ids e (e.newcomer m t) m'.date _).2
    reports := reports_resultOf e (e.newcomer m t) m'.date _
    late := ⟨fun late => absurd late onTime, fun past => nomatch timely.symm.trans past⟩
    answer := fun f done => ?_
    completed := (added Ledger.completed _ fun _ => rfl).trans (apply_ite Nat.cast _ _ _)
    failed := (added Ledger.failed _ fun _ => rfl).trans (apply_ite Nat.cast _ _ _)
    told := (added Ledger.total _ fun _ => rfl).trans (apply_ite Nat.cast _ _ _)
    turnedAway := (added Ledger.rejected _ fun _ => rfl).trans (apply_ite Nat.cast _ _ _)
    untouched := fun late => absurd late onTime
    asked := ?_
    unasked := ?_ }⟩
  -- The execution is new, so that its answer cannot have been there before.
  · rcases life.answer done with ⟨since, stage⟩ | answered
    · cases stage
    · exact answered
  · rw [asked]
    refine Nat.le_trans few ?_
    split
    · exact Nat.le_refl 1
    · exact Nat.zero_le 1
  · rw [asked]
    rintro (late | rejected | ⟨f, unread⟩)
    · exact absurd late onTime
    · exact (life.unasked rejected).2
    · rw [unread] at few
      exact Nat.le_zero.1 few

/-- A task arrives, and whatever happens then, its execution ends if it is late, or is stopped, or its limit
passes once it came to the breaker. However an execution has ended, there is an account of it. What
becomes of the report of its result changes nothing of the executor. -/
theorem executed_once (h : e.Sound) (m : Moment) (t : Task) (es : List (Moment × Event))
    (due : t.isPastDeadline m.date = true ∨ .cancel e.arrived ∈ es.map Prod.snd ∨
      [.begin e.arrived, .overdue e.arrived].Sublist (es.map Prod.snd) ∨
      (e.applyAll ((m, .arrive t) :: es)).get? e.arrived = none) :
    ∃ k r, Account e m t es k r ∧ ∀ (σ : Type) (remote : Remote σ) (c : Client σ),
      (c.report remote r).2.workshop = c.workshop := by
  cases past : t.isPastDeadline m.date with
  | true =>
    obtain ⟨r, account⟩ := account_of_late h past es
    exact ⟨.late, r, account, fun _ remote c => c.workshop_report remote r⟩
  | false =>
    have due := due.resolve_left fun late => nomatch past.symm.trans late
    obtain ⟨k, r, account⟩ := account_of_timely h past (or_assoc.2 due)
    exact ⟨k, r, account, fun _ remote c => c.workshop_report remote r⟩

/-! ## Two executions at a time -/

/-- An executor that lets one task in behind a breaker that opens with the first failure. -/
def idle : Executor := new "w-1" (.ofSeconds 300) ⟨1, 1, .ofSeconds 60⟩

/-- A task that asks for an insight. -/
def errand (id : String) : Task :=
  .plain id .insightGeneration (InsightJob.mk "user-1" ["e-1"] "mood" none).encode .epoch

def mood : Finding := .insight ⟨"user-1", "mood", "calm", 1, .epoch⟩

/-- The service answers while another execution begins, and it fails the other one. -/
def errands : List (Moment × Event) :=
  [.begin 0, .arrive (errand "t-2"), .told 0, .begin 1, .answered 0 (.ok mood), .told 1,
    .answered 1 (.error (.ai "model overloaded")), .told 0, .overdue 0].map (⟨.epoch, .zero⟩, ·)

/-- The first execution is done, though the breaker opens before it ends. -/
theorem executed_once_overlapping :
    ∃ k, Account idle ⟨.epoch, .zero⟩ (errand "t-1") errands k
      ⟨"t-1", "w-1", .completed, mood.encode, "", some .epoch, some .epoch⟩ ∧ k.succeeds = true := by
  have due : [.begin 0, .overdue 0].Sublist (errands.map Prod.snd) := by
    refine .cons_cons _ (.cons _ (.cons _ (.cons _ (.cons _ (.cons _ (.cons _ (.cons _ ?_)))))))
    exact List.Sublist.refl _
  have results : (idle.applyAll ((⟨.epoch, .zero⟩, .arrive (errand "t-1")) :: errands)).results 0 =
      [⟨"t-1", "w-1", .completed, mood.encode, "", some .epoch, some .epoch⟩] := by decide +kernel
  have completed : gained (fun e => e.book.completed) 0 idle
      ((⟨.epoch, .zero⟩, .arrive (errand "t-1")) :: errands) = 1 := by decide +kernel
  obtain ⟨k, r, account, -⟩ := executed_once (sound_new _ _ _ _) ⟨.epoch, .zero⟩ (errand "t-1") errands
    (.inr (.inr (.inl due)))
  obtain rfl := List.singleton_inj.1 (account.result.symm.trans results)
  refine ⟨k, account, ?_⟩
  have succeeds := account.completed.symm.trans completed
  by_contra fails
  rw [if_neg fails] at succeeds
  cases succeeds

end

end

end Executor

end Worker

end WorkDispatch
