import Mathlib.Data.List.Nodup
import WorkDispatch.Worker.Executor

/-!
# Executions ask for what their tasks say

An execution has a number that no other has, and what it asks the service for is what its task was
read as: `Orderly`, which every event keeps, whichever it is (`apply_orderly`). So in every run the
service is asked for nothing but what the tasks say, and it is asked for that once the breaker lets
an execution through and the coordinator was told: `askedFor_of_run`.
-/

set_option autoImplicit false

namespace WorkDispatch.Worker

/-- An execution that is about to ask the service, or asks it, asks for what its task says. -/
def Execution.Asks (x : Execution) : Prop :=
  ∀ since q, x.stage = .working since (.starting q) ∨ x.stage = .working since (.asking q) →
    Inquiry.ofTask x.task = .ok q

namespace Executor

/-- The executions that have not ended have numbers of their own, and each asks for what its task
says. -/
structure Orderly (e : Executor) : Prop where
  asks : ∀ x ∈ e.running, x.Asks
  once : (e.running.map Execution.number).Nodup
  counted : ∀ x ∈ e.running, x.number < e.arrived

section

variable {e : Executor} {x : Execution} {m : Moment}

/-- A number names one execution. -/
theorem Orderly.eq_of_number (h : e.Orderly) {y : Execution} (hx : x ∈ e.running)
    (hy : y ∈ e.running) (same : x.number = y.number) : x = y :=
  List.inj_on_of_nodup_map h.once hx hy same

/-- What is found under a number is running and has that number. -/
theorem mem_of_get? {n : Nat} (h : e.get? n = some x) : x ∈ e.running ∧ x.number = n := by
  have number := List.find?_some h
  rw [beq_iff_eq] at number
  exact ⟨List.mem_of_find?_eq_some h, number⟩

/-- An execution that is running is found under its number. -/
theorem Orderly.get?_of_mem (h : e.Orderly) (hx : x ∈ e.running) : e.get? x.number = some x := by
  cases found : e.get? x.number with
  | none =>
    have other := List.find?_eq_none.1 found x hx
    rw [beq_self_eq_true] at other
    exact absurd rfl other
  | some y =>
    obtain ⟨hy, number⟩ := mem_of_get? found
    rw [h.eq_of_number hy hx number]

/-! ## Steps -/

/-- Fewer executions are no less orderly. -/
theorem conclude_orderly (h : e.Orderly) (r : Except Failure Finding) :
    (e.conclude m x r).Orderly where
  asks y hy := h.asks y (List.mem_of_mem_filter hy)
  once := h.once.sublist (List.filter_sublist.map _)
  counted y hy := h.counted y (List.mem_of_mem_filter hy)

/-- An end leaves the other executions in order. -/
theorem settle_orderly (h : e.Orderly) (since : Span) (r : Except Failure Finding) :
    (e.settle m since x r).Orderly := by
  have later : ∀ b, ({ e with breaker := b } : Executor).Orderly := fun _ =>
    ⟨h.asks, h.once, h.counted⟩
  exact conclude_orderly (later _) r

/-- What is noted in the book is no matter of order. -/
theorem note_orderly (h : e.Orderly) (percent : Int32) : (e.note x percent).Orderly :=
  ⟨h.asks, h.once, h.counted⟩

/-- An execution goes on to work that its task says. -/
theorem goOn_orderly (h : e.Orderly) (hx : x ∈ e.running) {since : Span} {w : Work}
    (next : ({ x with stage := .working since w } : Execution).Asks) :
    (e.goOn x since w).Orderly := by
  have numbers : (e.goOn x since w).running.map Execution.number = e.running.map Execution.number := by
    rw [goOn, List.map_map]
    refine List.map_congr_left fun y _ => ?_
    show (if y.number = x.number then { y with stage := .working since w } else y).number = y.number
    split
    · rfl
    · rfl
  have cases : ∀ y ∈ (e.goOn x since w).running,
      y ∈ e.running ∨ y = { x with stage := .working since w } := by
    intro y hy
    obtain ⟨z, hz, rfl⟩ := List.mem_map.1 hy
    by_cases own : z.number = x.number
    · rw [if_pos own, h.eq_of_number hz hx own]
      exact .inr rfl
    · rw [if_neg own]
      exact .inl hz
  refine ⟨fun y hy => ?_, numbers ▸ h.once, fun y hy => ?_⟩
  · rcases cases y hy with old | rfl
    · exact h.asks y old
    · exact next
  · rcases cases y hy with old | rfl
    · exact h.counted y old
    · exact h.counted x hx

/-- An execution that arrives has the next number, and asks for nothing yet. -/
theorem arrive_orderly (h : e.Orderly) (t : Task) : (e.arrive m t).Orderly := by
  have later : ({ e with book := e.book.begin t m.date, arrived := e.arrived + 1 } : Executor).Orderly :=
    ⟨h.asks, h.once, fun y hy => Nat.lt_succ_of_lt (h.counted y hy)⟩
  unfold arrive
  split
  · exact conclude_orderly later _
  · refine ⟨fun y hy => ?_, ?_, fun y hy => ?_⟩
    · rcases List.mem_append.1 hy with old | new
      · exact h.asks y old
      · rw [List.mem_singleton] at new
        subst new
        rintro since q (stage | stage)
        · cases stage
        · cases stage
    · rw [List.map_append, List.nodup_append]
      refine ⟨h.once, List.nodup_singleton _, fun n hn k hk same => ?_⟩
      obtain ⟨y, hy, rfl⟩ := List.mem_map.1 hn
      have below := h.counted y hy
      rw [List.map_singleton, List.mem_singleton] at hk
      subst hk
      exact absurd same (Nat.ne_of_lt below)
    · rcases List.mem_append.1 hy with old | new
      · exact later.counted y old
      · rw [List.mem_singleton] at new
        subst new
        exact Nat.lt_succ_self e.arrived

/-- An execution comes to the breaker, and starts on what its task was read as. -/
theorem begin_orderly (h : e.Orderly) (hx : x ∈ e.running) : (e.begin m x).Orderly := by
  have later : ∀ b, ({ e with breaker := b } : Executor).Orderly := fun _ =>
    ⟨h.asks, h.once, h.counted⟩
  cases passed : e.breaker.arrive m.clock with
  | mk allowed b =>
    simp only [begin, passed]
    cases allowed with
    | false => exact conclude_orderly (later b) _
    | true =>
      cases reads : Inquiry.ofTask x.task with
      | error f => exact settle_orderly (later b) _ _
      | ok q =>
        refine note_orderly (goOn_orderly (later b) hx ?_) 25
        -- What is asked for later is fixed here, and carried along by the stage until it is asked.
        rintro since q' (stage | stage)
        · cases stage
          exact reads
        · cases stage

/-- Nothing that happens makes an execution ask for anything else. -/
theorem apply_orderly (h : e.Orderly) (m : Moment) (v : Event) : (e.apply m v).Orderly := by
  cases v with
  | arrive t => exact arrive_orderly h t
  | begin n =>
    simp only [apply]
    split
    · next x found =>
      split
      · exact begin_orderly h (mem_of_get? found).1
      · exact h
    · exact h
  | told n =>
    simp only [apply]
    split
    · next x found =>
      split
      · next since q stage =>
        -- The question was told of before it is asked: it is the same one.
        have reads := h.asks x (mem_of_get? found).1 since q (.inl stage)
        refine goOn_orderly h (mem_of_get? found).1 ?_
        rintro since' q' (stage | stage)
        · cases stage
        · cases stage
          exact reads
      · exact settle_orderly h _ _
      · exact h
    · exact h
  | answered n r =>
    simp only [apply]
    split
    · next x found =>
      split
      · refine note_orderly (goOn_orderly h (mem_of_get? found).1 ?_) 100
        rintro since' q' (stage | stage)
        · cases stage
        · cases stage
      · exact settle_orderly h _ _
      · exact h
    · exact h
  | overdue n =>
    simp only [apply]
    split
    · split
      · exact settle_orderly h _ _
      · exact h
    · exact h
  | cancel n =>
    simp only [apply]
    split
    · exact conclude_orderly h _
    · exact h

end

/-! ## Runs -/

/-- Before anything arrives there is nothing to be in order. -/
theorem new_orderly (workerId : String) (taskTimeout : Span) (c : Breaker.Config)
    (complaint : TaskType → Bytes → String) : (new workerId taskTimeout c complaint).Orderly :=
  ⟨fun _ h => absurd h List.not_mem_nil, List.nodup_nil, fun _ h => absurd h List.not_mem_nil⟩

/-- Whatever happens to an executor, it stays in order. -/
theorem applyAll_orderly {e : Executor} (h : e.Orderly) (es : List (Moment × Event)) :
    (e.applyAll es).Orderly := by
  induction es generalizing e with
  | nil => exact h
  | cons p es ih => exact ih (apply_orderly h p.1 p.2)

/-! ## Asking -/

/-- The service is asked for `q` on behalf of an execution, and for nothing else. -/
structure AskedFor (e : Executor) (x : Execution) (q : Inquiry) : Prop where
  /-- When the breaker lets it through, the execution starts on `q`. -/
  starts : x.stage = .arrived → ∀ m : Moment, (e.breaker.arrive m.clock).1 = true →
    (e.apply m (.begin x.number)).get? x.number =
      some { x with stage := .working m.clock (.starting q) }
  /-- When the coordinator was told of that, the service is asked. -/
  asks : ∀ since, x.stage = .working since (.starting q) → ∀ m : Moment,
    (e.apply m (.told x.number)).get? x.number =
      some { x with stage := .working since (.asking q) }
  only : ∀ since q',
    x.stage = .working since (.starting q') ∨ x.stage = .working since (.asking q') → q' = q

section

variable {e : Executor} {x : Execution}

/-- An execution that goes on is found at its new work. -/
theorem get?_goOn (h : e.Orderly) (hx : x ∈ e.running) (since : Span) (w : Work) :
    (e.goOn x since w).get? x.number = some { x with stage := .working since w } := by
  have same : ((fun y : Execution => y.number == x.number) ∘ fun y : Execution =>
      if y.number = x.number then { y with stage := .working since w } else y) =
        fun y => y.number == x.number := by
    funext y
    show ((if y.number = x.number then { y with stage := .working since w } else y).number ==
      x.number) = _
    split
    · rfl
    · rfl
  have found : e.running.find? (fun y => y.number == x.number) = some x := h.get?_of_mem hx
  rw [get?, goOn, List.find?_map, same, found, Option.map_some, if_pos rfl]

/-- What a task was read as is what the service is asked for. -/
theorem Orderly.askedFor (h : e.Orderly) (hx : x ∈ e.running) {q : Inquiry}
    (reads : Inquiry.ofTask x.task = .ok q) : AskedFor e x q := by
  refine ⟨fun stage m allowed => ?_, fun since stage m => ?_, fun since q' stage => ?_⟩
  · have later : ({ e with breaker := (e.breaker.arrive m.clock).2 } : Executor).Orderly :=
      ⟨h.asks, h.once, h.counted⟩
    simp only [apply, h.get?_of_mem hx, stage, if_true, begin, allowed, Bool.not_true,
      Bool.false_eq_true, if_false, reads]
    exact get?_goOn later hx m.clock (.starting q)
  · simp only [apply, h.get?_of_mem hx, stage]
    exact get?_goOn h hx since (.asking q)
  · have own := h.asks x hx since q' stage
    rw [reads] at own
    exact (Except.ok.inj own).symm

/-- In every run of a worker, the service is asked for what the tasks were read as. -/
theorem askedFor_of_run (workerId : String) (taskTimeout : Span) (c : Breaker.Config)
    (complaint : TaskType → Bytes → String) (es : List (Moment × Event))
    (hx : x ∈ ((new workerId taskTimeout c complaint).applyAll es).running) {q : Inquiry}
    (reads : Inquiry.ofTask x.task = .ok q) :
    AskedFor ((new workerId taskTimeout c complaint).applyAll es) x q :=
  (applyAll_orderly (new_orderly workerId taskTimeout c complaint) es).askedFor hx reads

end

end Executor

end WorkDispatch.Worker
