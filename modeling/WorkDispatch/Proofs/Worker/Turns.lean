import WorkDispatch.Proofs.Breaker.Counts
import WorkDispatch.Proofs.Worker.Asking

/-!
# What an event does to an executor

An event does nothing, or lets one execution join, go on or end: `Does` says which of these it is and
what the executor is then, and `does_apply` that there is nothing else. `Goes` and `Ends` say when an
execution goes on and when it ends; an `Ending` is all that is left to know of an end.

The rest of the module reads from this what an event keeps. It leaves all executions alone but the one
that it is about (`apart_apply`); one that ended stays so (`Gone.apply`); and the counts of the book and
of the breaker change at ends only (`Goes.ledger`, `Ends.ledger`).
-/

set_option autoImplicit false

namespace WorkDispatch.Worker

/-- Progress is no end. -/
theorem Book.counts_updateProgress (b : Book) (id : String) (percent : Int32) :
    (b.updateProgress id percent).2.completed = b.completed ∧
      (b.updateProgress id percent).2.failed = b.failed := by
  unfold updateProgress
  split
  · exact ⟨rfl, rfl⟩
  · exact ⟨rfl, rfl⟩

namespace Executor

/-! ## Endings -/

/-- How an execution ends. -/
inductive Ending
  /-- The task arrived after its deadline. -/
  | late
  /-- The breaker turned it away. -/
  | rejected
  /-- The task could not be read as an inquiry. -/
  | unfit (f : Failure)
  /-- The service failed. -/
  | unanswered (f : Failure)
  /-- The service answered, and the coordinator was told. -/
  | done (f : Finding)
  /-- The limit passed. -/
  | overdue
  /-- The worker stopped. -/
  | stopped
  deriving DecidableEq

namespace Ending

/-- What an execution comes to, behind a breaker of a name. -/
def outcome (component : String) (x : Execution) : Ending → Except Failure Finding
  | late => .error (.deadlineExceeded ("task " ++ x.task.id ++ " arrived after its deadline"))
  | rejected => .error (.circuitOpen component)
  | unfit f | unanswered f => .error f
  | done f => .ok f
  | overdue => .error (Executor.overdue x)
  | stopped => .error (Executor.stopped x)

def succeeds : Ending → Bool
  | done _ => true
  | _ => false

/-- Whether what was behind the breaker came to its end or to its limit. -/
def isTold : Ending → Bool
  | unfit _ | unanswered _ | done _ | overdue => true
  | late | rejected | stopped => false

/-- What a breaker has counted after an end: it was told of it, had turned the execution away, or does not
know. -/
def tallied (k : Ending) (t : Breaker.Tally) : Breaker.Tally :=
  { t with
    total := t.total + if k.isTold then 1 else 0
    good := t.good + if k.succeeds then 1 else 0
    bad := t.bad + if k.isTold && !k.succeeds then 1 else 0
    rejected := t.rejected + if k = .rejected then 1 else 0 }

/-- An end is a success when what it comes to is one. -/
theorem isOk_outcome (component : String) (x : Execution) (k : Ending) :
    (k.outcome component x).isOk = k.succeeds := by
  cases k with
  | late | rejected | unfit | unanswered | done | overdue | stopped => rfl

end Ending

/-! ## Turns -/

section

variable (e : Executor) (m : Moment)

/-- The execution that a task begins when it arrives. -/
def newcomer (t : Task) : Execution := ⟨e.arrived, t, m.date, e.limit t m.date, .arrived⟩

/-- The executions after one of them came to another stage. -/
def staged (x : Execution) (s : Stage) : List Execution :=
  e.running.map fun y => if y.number = x.number then { y with stage := s } else y

/-- What takes an execution to another stage. -/
inductive Goes (x : Execution) : Event → Stage → Prop
  | begins {q : Inquiry} (found : e.get? x.number = some x) (stage : x.stage = .arrived)
    (allowed : (e.breaker.arrive m.clock).1 = true) (reads : Inquiry.ofTask x.task = .ok q) :
    Goes x (.begin x.number) (.working m.clock (.starting q))
  | asks {since : Span} {q : Inquiry} (found : e.get? x.number = some x)
    (stage : x.stage = .working since (.starting q)) :
    Goes x (.told x.number) (.working since (.asking q))
  | answered {since : Span} {q : Inquiry} {f : Finding} (found : e.get? x.number = some x)
    (stage : x.stage = .working since (.asking q)) :
    Goes x (.answered x.number (.ok f)) (.working since (.finishing f))

/-- What ends an execution, in each way. -/
inductive Ends : Execution → Event → Ending → Prop
  | late {t : Task} (past : t.isPastDeadline m.date = true) : Ends (e.newcomer m t) (.arrive t) .late
  | rejected {x : Execution} (found : e.get? x.number = some x) (stage : x.stage = .arrived)
    (turned : (e.breaker.arrive m.clock).1 = false) : Ends x (.begin x.number) .rejected
  | unfit {x : Execution} {u : Unfit} (found : e.get? x.number = some x) (stage : x.stage = .arrived)
    (allowed : (e.breaker.arrive m.clock).1 = true) (unread : Inquiry.ofTask x.task = .error u) :
    Ends x (.begin x.number) (.unfit (u.toFailure (e.complaint x.task.type x.task.payload)))
  | unanswered {x : Execution} {since : Span} {q : Inquiry} {f : Failure}
    (found : e.get? x.number = some x) (stage : x.stage = .working since (.asking q)) :
    Ends x (.answered x.number (.error f)) (.unanswered f)
  | done {x : Execution} {since : Span} {f : Finding} (found : e.get? x.number = some x)
    (stage : x.stage = .working since (.finishing f)) : Ends x (.told x.number) (.done f)
  | overdue {x : Execution} {since : Span} {w : Work} (found : e.get? x.number = some x)
    (stage : x.stage = .working since w) : Ends x (.overdue x.number) .overdue
  | stopped {x : Execution} (found : e.get? x.number = some x) : Ends x (.cancel x.number) .stopped

/-- What no event that does nothing can be to an execution that has not ended. -/
structure Idle (v : Event) (x : Execution) : Prop where
  cancel : v ≠ .cancel x.number
  begin : x.stage = .arrived → v ≠ .begin x.number
  overdue : x.stage ≠ .arrived → v ≠ .overdue x.number

/-- What an event does, and the executor after it. -/
inductive Does : Event → Executor → Prop
  | nothing {v : Event} (idle : ∀ x, e.get? x.number = some x → Idle v x) : Does v e
  | joins {t : Task} (timely : t.isPastDeadline m.date = false) :
    Does (.arrive t)
      { e with
        book := e.book.begin t m.date
        arrived := e.arrived + 1
        running := e.running ++ [e.newcomer m t] }
  | goes {x : Execution} {v : Event} {s : Stage} {b : Breaker} {c : Book} (goes : Goes e m x v s)
    (breaker : b.tally = e.breaker.tally) (completed : c.completed = e.book.completed)
    (failed : c.failed = e.book.failed) :
    Does v { e with breaker := b, book := c, running := e.staged x s }
  | ends {x : Execution} {v : Event} {k : Ending} {b : Breaker} {c : Book} (ends : Ends e m x v k)
    (breaker : b.tally = k.tallied e.breaker.tally) (completed : c.completed = e.book.completed)
    (failed : c.failed = e.book.failed) :
    Does v
      (({ e with breaker := b, book := c, arrived := e.arrived + if k = .late then 1 else 0 } :
        Executor).conclude m x (k.outcome e.breaker.name x))

end

section

variable {e : Executor} {m : Moment} {x : Execution}

/-- An end behind the breaker is told to the breaker first. -/
theorem settle_eq (e : Executor) (m : Moment) (since : Span) (x : Execution) (r : Except Failure Finding) :
    e.settle m since x r =
      ({ e with breaker := Breaker.record e.breaker m.clock ⟨m.clock.nanoseconds - since.nanoseconds⟩ r } :
        Executor).conclude m x r := by
  cases r with
  | ok f => rfl
  | error f => rfl

/-- Telling the breaker how an execution behind it came out is what its end means for the breaker. -/
theorem record_tallied (b : Breaker) (now took : Span) {k : Ending} (told : k.isTold = true)
    (component : String) (x : Execution) :
    (Breaker.record b now took (k.outcome component x)).tally = k.tallied b.tally := by
  rw [Breaker.record_tally, Ending.isOk_outcome]
  cases k with
  | unfit | unanswered | done | overdue => rfl
  | late | rejected | stopped => cases told

/-- An end before the breaker, or without it, is one of the things that an event does. -/
theorem does_conclude {v : Event} {k : Ending} {b : Breaker} (ends : Ends e m x v k) (timely : k ≠ .late)
    (breaker : b.tally = k.tallied e.breaker.tally) :
    Does e m v (({ e with breaker := b } : Executor).conclude m x (k.outcome e.breaker.name x)) := by
  have ended := Does.ends (c := e.book) ends breaker rfl rfl
  rwa [if_neg timely, Nat.add_zero] at ended

/-- So is an end behind it. -/
theorem does_settle {v : Event} {k : Ending} {b : Breaker} (ends : Ends e m x v k)
    (told : k.isTold = true) (same : b.tally = e.breaker.tally) (since : Span) :
    Does e m v (({ e with breaker := b } : Executor).settle m since x (k.outcome e.breaker.name x)) := by
  have timely : k ≠ .late := by
    rintro rfl
    cases told
  rw [settle_eq]
  refine does_conclude ends timely ?_
  rw [record_tallied b _ _ told, same]

/-- So is what comes of an execution at the breaker. -/
theorem does_begin (found : e.get? x.number = some x) (stage : x.stage = .arrived) :
    Does e m (.begin x.number) (e.begin m x) := by
  have tally := Breaker.arrive_tally e.breaker m.clock
  rcases arrived : e.breaker.arrive m.clock with ⟨allowed, b⟩
  rw [arrived] at tally
  have name : b.name = e.breaker.name := congrArg Breaker.Tally.name tally
  simp only [begin, arrived]
  cases allowed with
  | false =>
    have timely : Ending.rejected ≠ .late := by
      rintro ⟨⟩
    have ended := does_conclude (b := b) (.rejected found stage (congrArg Prod.fst arrived)) timely tally
    rwa [← name] at ended
  | true =>
    have passed : (e.breaker.arrive m.clock).1 = true := congrArg Prod.fst arrived
    cases reads : Inquiry.ofTask x.task with
    | error f => exact does_settle (.unfit found stage passed reads) rfl tally m.clock
    | ok q =>
      have counts := Book.counts_updateProgress e.book x.task.id 25
      exact .goes (.begins found stage passed reads) tally counts.1 counts.2

/-! ### Events that do nothing -/

variable {n : Nat}

theorem idle_of_begin (waits : x.stage = .arrived → n ≠ x.number) : Idle (.begin n) x := by
  refine ⟨?_, fun arrived same => waits arrived (Event.begin.inj same), fun _ => ?_⟩
  · rintro ⟨⟩
  · rintro ⟨⟩

theorem idle_told (n : Nat) (x : Execution) : Idle (.told n) x := by
  refine ⟨?_, fun _ => ?_, fun _ => ?_⟩
  · rintro ⟨⟩
  · rintro ⟨⟩
  · rintro ⟨⟩

theorem idle_answered (n : Nat) (r : Except Failure Finding) (x : Execution) : Idle (.answered n r) x := by
  refine ⟨?_, fun _ => ?_, fun _ => ?_⟩
  · rintro ⟨⟩
  · rintro ⟨⟩
  · rintro ⟨⟩

theorem idle_of_overdue (waits : x.stage ≠ .arrived → n ≠ x.number) : Idle (.overdue n) x := by
  refine ⟨?_, fun _ => ?_, fun later same => waits later (Event.overdue.inj same)⟩
  · rintro ⟨⟩
  · rintro ⟨⟩

theorem idle_of_cancel (other : n ≠ x.number) : Idle (.cancel n) x := by
  refine ⟨fun same => other (Event.cancel.inj same), fun _ => ?_, fun _ => ?_⟩
  · rintro ⟨⟩
  · rintro ⟨⟩

/-- What is not found is not the number of what is. -/
theorem ne_of_absent (absent : e.get? n = none) (found : e.get? x.number = some x) : n ≠ x.number := by
  rintro rfl
  cases absent.symm.trans found

/-- Executions found under one number are one. -/
theorem eq_of_number {y : Execution} (found : e.get? x.number = some x) (other : e.get? y.number = some y)
    (number : y.number = x.number) : y = x := by
  rw [number, found] at other
  exact (Option.some.inj other).symm

/-! ### All events -/

/-- There is nothing else that an event does. -/
theorem does_apply (e : Executor) (m : Moment) (v : Event) : Does e m v (e.apply m v) := by
  cases v with
  | arrive t =>
    simp only [apply, arrive]
    -- A task that is past its deadline ends as it comes.
    cases past : t.isPastDeadline m.date with
    | true => exact .ends (.late past) rfl rfl rfl
    | false => exact .joins past
  | begin n =>
    simp only [apply]
    split
    · next x found =>
      obtain rfl := (mem_of_get? found).2
      split
      · next stage => exact does_begin found stage
      · next later =>
        -- Out of its stage an event is for nobody: by its number it could only be for `x`.
        refine .nothing fun y there => idle_of_begin fun stage number => later ?_
        exact eq_of_number found there number.symm ▸ stage
    · next absent => exact .nothing fun y there => idle_of_begin fun _ => ne_of_absent absent there
  | told n =>
    simp only [apply]
    split
    · next x found =>
      obtain rfl := (mem_of_get? found).2
      split
      · next since q stage => exact .goes (.asks found stage) rfl rfl rfl
      · next since f stage => exact does_settle (.done found stage) rfl rfl since
      · exact .nothing fun y _ => idle_told _ y
    · exact .nothing fun y _ => idle_told _ y
  | answered n r =>
    simp only [apply]
    split
    · next x found =>
      obtain rfl := (mem_of_get? found).2
      split
      · next since q f stage =>
        -- The progress is noted, which changes the entry of the task and no count.
        have counts := Book.counts_updateProgress e.book x.task.id 100
        exact .goes (.answered found stage) rfl counts.1 counts.2
      · next since q f stage => exact does_settle (.unanswered found stage) rfl rfl since
      · exact .nothing fun y _ => idle_answered _ _ y
    · exact .nothing fun y _ => idle_answered _ _ y
  | overdue n =>
    simp only [apply]
    split
    · next x found =>
      obtain rfl := (mem_of_get? found).2
      split
      · next since w stage => exact does_settle (.overdue found stage) rfl rfl since
      · next stage =>
        refine .nothing fun y there => idle_of_overdue fun later number => later ?_
        exact (eq_of_number found there number.symm).symm ▸ stage
    · next absent => exact .nothing fun y there => idle_of_overdue fun _ => ne_of_absent absent there
  | cancel n =>
    simp only [apply]
    split
    · next x found =>
      obtain rfl := (mem_of_get? found).2
      have timely : Ending.stopped ≠ .late := by
        rintro ⟨⟩
      exact does_conclude (.stopped found) timely rfl
    · next absent => exact .nothing fun y there => idle_of_cancel (ne_of_absent absent there)

end

/-! ## What events keep -/

/-- The number of the execution that an event is about; an arrival begins the next one. -/
def about (e : Executor) : Event → Nat
  | .arrive _ => e.arrived
  | .begin n | .told n | .answered n _ | .overdue n | .cancel n => n

/-- The results that there are for a number. -/
def results (e : Executor) (n : Nat) : List TaskResult :=
  (e.ended.filter fun p => p.1 == n).map Prod.snd

/-- What the book and the breaker have counted. -/
structure Ledger where
  completed : Nat
  failed : Nat
  total : Nat
  rejected : Nat

def ledger (e : Executor) : Ledger :=
  ⟨e.book.completed, e.book.failed, e.breaker.metrics.totalCalls, e.breaker.metrics.rejectedCalls⟩

/-- What has been counted after one more end. -/
def Ledger.close (l : Ledger) (k : Ending) : Ledger where
  completed := l.completed + if k.succeeds then 1 else 0
  failed := l.failed + if k.succeeds then 0 else 1
  total := l.total + if k.isTold then 1 else 0
  rejected := l.rejected + if k = .rejected then 1 else 0

section

variable {e : Executor} {m : Moment} {x : Execution} {v : Event} {s : Stage} {k : Ending} {n : Nat}

/-- What takes an execution on is about it. -/
theorem Goes.about (goes : Goes e m x v s) : e.about v = x.number := by
  cases goes with
  | begins | asks | answered => rfl

/-- What ends an execution is about it. -/
theorem Ends.about (ends : Ends e m x v k) : e.about v = x.number := by
  cases ends with
  | late | rejected | unfit | unanswered | done | overdue | stopped => rfl

/-- What goes on is there. -/
theorem Goes.found (goes : Goes e m x v s) : e.get? x.number = some x := by
  cases goes with
  | begins found | asks found | answered found => exact found

/-- An execution that ends was there, unless it ends as it arrives. -/
theorem Ends.found_or_late (ends : Ends e m x v k) :
    e.get? x.number = some x ∨ x.number = e.arrived ∧ k = .late := by
  cases ends with
  | late => exact .inr ⟨rfl, rfl⟩
  | rejected found | unfit found | unanswered found | done found | overdue found | stopped found =>
    exact .inl found

/-- An event keeps the names of the worker and the breaker, and how many executions have arrived unless
it is one more. -/
theorem apply_keeps (e : Executor) (m : Moment) (v : Event) :
    (e.apply m v).workerId = e.workerId ∧ (e.apply m v).breaker.name = e.breaker.name ∧
      e.arrived ≤ (e.apply m v).arrived := by
  have turn := does_apply e m v
  generalize e.apply m v = e' at turn
  cases turn with
  | nothing => exact ⟨rfl, rfl, Nat.le_refl _⟩
  | joins => exact ⟨rfl, rfl, Nat.le_succ _⟩
  | goes goes breaker => exact ⟨rfl, congrArg Breaker.Tally.name breaker, Nat.le_refl _⟩
  | ends ends breaker => exact ⟨rfl, congrArg Breaker.Tally.name breaker, Nat.le_add_right _ _⟩

/-- An event keeps the task of every execution, and only an arrival brings another execution. -/
theorem mem_running_apply (hx : x ∈ (e.apply m v).running) :
    (∃ y ∈ e.running, y.number = x.number ∧ y.task = x.task) ∨ ∃ t, v = .arrive t ∧ x = e.newcomer m t := by
  have turn := does_apply e m v
  generalize e.apply m v = e' at turn hx
  cases turn with
  | nothing => exact .inl ⟨x, hx, rfl, rfl⟩
  | @joins t =>
    rcases List.mem_append.1 hx with old | new
    · exact .inl ⟨x, old, rfl, rfl⟩
    · exact .inr ⟨t, rfl, List.mem_singleton.1 new⟩
  | goes =>
    obtain ⟨y, hy, rfl⟩ := List.mem_map.1 hx
    refine .inl ⟨y, hy, ?_, ?_⟩
    · split
      · rfl
      · rfl
    · split
      · rfl
      · rfl
  | ends => exact .inl ⟨x, List.mem_of_mem_filter hx, rfl, rfl⟩

/-- A task that arrives is counted. -/
theorem arrived_arrive (e : Executor) (m : Moment) (t : Task) :
    (e.apply m (.arrive t)).arrived = e.arrived + 1 := by
  simp only [apply, arrive]
  split
  · rfl
  · rfl

/-- Nothing else is. -/
theorem arrived_apply (other : ∀ t, v ≠ .arrive t) : (e.apply m v).arrived = e.arrived := by
  have turn := does_apply e m v
  generalize e.apply m v = e' at turn
  cases turn with
  | nothing => rfl
  | @joins t => exact absurd rfl (other t)
  | goes => rfl
  | ends ends =>
    cases ends with
    | @late t => exact absurd rfl (other t)
    | rejected | unfit | unanswered | done | overdue | stopped => rfl

/-! ### The other executions -/

/-- To an execution of a number, two executors are the same. -/
structure Apart (n : Nat) (e e' : Executor) : Prop where
  get? : e'.get? n = e.get? n
  results : e'.results n = e.results n

/-- One execution at another stage leaves the others. -/
theorem find?_staged (e : Executor) (x : Execution) (s : Stage) (n : Nat) :
    (e.staged x s).find? (fun y => y.number == n) =
      (e.get? n).map fun y => if y.number = x.number then { y with stage := s } else y := by
  have same : ((fun y : Execution => y.number == n) ∘ fun y : Execution =>
      if y.number = x.number then { y with stage := s } else y) = fun y => y.number == n := by
    funext y
    show ((if y.number = x.number then { y with stage := s } else y).number == n) = _
    split
    · rfl
    · rfl
  rw [staged, List.find?_map, same]
  rfl

/-- An execution that ended is not found, and the others are. -/
theorem get?_conclude (e : Executor) (m : Moment) (x : Execution) (r : Except Failure Finding) (n : Nat) :
    (e.conclude m x r).get? n = if x.number = n then none else e.get? n := by
  show (e.running.filter fun y => y.number != x.number).find? (fun y => y.number == n) = _
  rw [List.find?_filter]
  split
  · next own =>
    refine List.find?_eq_none.2 fun y _ both => ?_
    rw [decide_eq_true_eq, bne_iff_ne, beq_iff_eq] at both
    exact both.1 (both.2.trans own.symm)
  · next other =>
    refine congrArg (fun p => e.running.find? p) (funext fun y => ?_)
    by_cases same : y.number = n
    · simp [same, Ne.symm other]
    · simp [same]

/-- An end writes its result under its own number. -/
theorem results_conclude (e : Executor) (m : Moment) (x : Execution) (r : Except Failure Finding) (n : Nat) :
    (e.conclude m x r).results n =
      if x.number = n then e.resultOf x m.date r :: e.results n else e.results n := by
  show (((x.number, e.resultOf x m.date r) :: e.ended).filter fun p => p.1 == n).map Prod.snd = _
  rw [List.filter_cons]
  split
  · next same => rw [if_pos (beq_iff_eq.1 same)]; rfl
  · next other => rw [if_neg fun same => other (beq_iff_eq.2 same)]; rfl

/-- An event leaves the executions alone that it is not about. -/
theorem apart_apply (e : Executor) (m : Moment) (v : Event) (other : e.about v ≠ n) :
    Apart n e (e.apply m v) := by
  have turn := does_apply e m v
  generalize e.apply m v = e' at turn
  cases turn with
  | nothing => exact ⟨rfl, rfl⟩
  | @joins t timely =>
    refine ⟨?_, rfl⟩
    show (e.running ++ [e.newcomer m t]).find? (fun y => y.number == n) = e.get? n
    have absent : [e.newcomer m t].find? (fun y => y.number == n) = none := by
      rw [List.find?_singleton]
      exact if_neg fun same => other (beq_iff_eq.1 same)
    rw [List.find?_append, absent, Option.or_none]
    rfl
  | @goes x v s b c goes =>
    rw [goes.about] at other
    refine ⟨?_, rfl⟩
    show (e.staged x s).find? (fun y => y.number == n) = e.get? n
    rw [find?_staged]
    cases found : e.get? n with
    | none => rfl
    | some y =>
      have number := (mem_of_get? found).2
      rw [Option.map_some, if_neg fun same => other (same.symm.trans number)]
  | @ends x v k b c ends =>
    rw [ends.about] at other
    refine ⟨?_, ?_⟩
    · rw [get?_conclude, if_neg other]
      rfl
    · rw [results_conclude, if_neg other]
      rfl

/-! ### The execution itself -/

/-- An execution that has ended, and is not to come either. -/
structure Gone (n : Nat) (e : Executor) : Prop where
  absent : e.get? n = none
  counted : n < e.arrived

/-- No event about an execution that has ended does anything. -/
theorem Gone.same (gone : Gone n e) (own : e.about v = n) : e.apply m v = e := by
  have turn := does_apply e m v
  generalize e.apply m v = e' at turn
  cases turn with
  | nothing => rfl
  | joins => exact absurd own.symm (Nat.ne_of_lt gone.counted)
  | goes goes =>
    have found := goes.found
    rw [goes.about.symm.trans own, gone.absent] at found
    cases found
  | ends ends =>
    rcases ends.found_or_late with found | ⟨number, -⟩
    · rw [ends.about.symm.trans own, gone.absent] at found
      cases found
    · exact absurd (number.symm.trans (ends.about.symm.trans own)) (Nat.ne_of_gt gone.counted)

/-- What has ended stays so, with its result. -/
theorem Gone.apply (gone : Gone n e) (m : Moment) (v : Event) :
    Gone n (e.apply m v) ∧ (e.apply m v).results n = e.results n := by
  by_cases own : e.about v = n
  · rw [gone.same own]
    exact ⟨gone, rfl⟩
  · have apart := apart_apply e m v own
    exact ⟨⟨apart.get?.trans gone.absent, Nat.lt_of_lt_of_le gone.counted (apply_keeps e m v).2.2⟩,
      apart.results⟩

/-- What an event does that leaves an execution where it is. -/
structure Waits (e : Executor) (m : Moment) (v : Event) (x : Execution) : Prop where
  found : (e.apply m v).get? x.number = some x
  results : (e.apply m v).results x.number = e.results x.number
  same : e.about v = x.number → e.apply m v = e
  idle : Idle v x

/-- What an execution that goes on leaves behind. -/
structure Onward (e e' : Executor) (x : Execution) (s : Stage) : Prop where
  found : e'.get? x.number = some { x with stage := s }
  results : e'.results x.number = e.results x.number
  ledger : e'.ledger = e.ledger

/-- What an execution that ends leaves behind. -/
structure Over (e e' : Executor) (m : Moment) (x : Execution) (k : Ending) : Prop where
  gone : Gone x.number e'
  results : e'.results x.number =
    e.resultOf x m.date (k.outcome e.breaker.name x) :: e.results x.number
  ledger : e'.ledger = e.ledger.close k
  cleared : e'.book.get? x.task.id = none

/-- An event about another execution is nothing to this one. -/
theorem idle_of_other (other : e.about v ≠ x.number) : Idle v x := by
  refine ⟨?_, fun _ => ?_, fun _ => ?_⟩
  · rintro rfl
    exact other rfl
  · rintro rfl
    exact other rfl
  · rintro rfl
    exact other rfl

/-- It leaves this one where it is. -/
theorem waits_of_other (found : e.get? x.number = some x) (other : e.about v ≠ x.number) :
    Waits e m v x := by
  have apart := apart_apply e m v other
  exact ⟨apart.get?.trans found, apart.results, fun own => absurd own other, idle_of_other other⟩

/-- The figures are read off the counts. -/
theorem ledger_of_tally {b : Breaker} {c : Book} (breaker : b.tally = e.breaker.tally)
    (completed : c.completed = e.book.completed) (failed : c.failed = e.book.failed) :
    (⟨c.completed, c.failed, b.metrics.totalCalls, b.metrics.rejectedCalls⟩ : Ledger) = e.ledger := by
  have total : b.metrics.totalCalls = _ := congrArg Breaker.Tally.total breaker
  have rejected : b.metrics.rejectedCalls = _ := congrArg Breaker.Tally.rejected breaker
  rw [completed, failed, total, rejected]
  rfl

/-- An end closes the ledger with its kind. -/
theorem ledger_conclude {b : Breaker} {c : Book} {a : Nat} {component : String}
    (breaker : b.tally = k.tallied e.breaker.tally) (completed : c.completed = e.book.completed)
    (failed : c.failed = e.book.failed) :
    (({ e with breaker := b, book := c, arrived := a } : Executor).conclude m x
      (k.outcome component x)).ledger = e.ledger.close k := by
  have total : b.metrics.totalCalls = _ := congrArg Breaker.Tally.total breaker
  have rejected : b.metrics.rejectedCalls = _ := congrArg Breaker.Tally.rejected breaker
  show (⟨if (k.outcome component x).isOk then c.completed + 1 else c.completed,
    if (k.outcome component x).isOk then c.failed else c.failed + 1, b.metrics.totalCalls,
    b.metrics.rejectedCalls⟩ : Ledger) = _
  rw [k.isOk_outcome, completed, failed, total, rejected, Ledger.close]
  cases k.succeeds with
  | true => rfl
  | false => rfl

/-- An end leaves one more result behind, and no entry in the book. -/
theorem over_conclude {b : Breaker} {c : Book} (counted : x.number < e.arrived + if k = .late then 1 else 0)
    (breaker : b.tally = k.tallied e.breaker.tally) (completed : c.completed = e.book.completed)
    (failed : c.failed = e.book.failed) :
    Over e (({ e with breaker := b, book := c, arrived := e.arrived + if k = .late then 1 else 0 } :
      Executor).conclude m x (k.outcome e.breaker.name x)) m x k := by
  refine ⟨⟨?_, counted⟩, ?_, ledger_conclude breaker completed failed, ?_⟩
  · rw [get?_conclude, if_pos rfl]
  · rw [results_conclude, if_pos rfl]
    rfl
  · show (c.active.erase x.task.id).get? x.task.id = none
    rw [Table.get?_erase, if_pos rfl]

/-- The end of an execution behind the breaker. -/
theorem over_settle (counted : x.number < e.arrived) (told : k.isTold = true) (m : Moment) (since : Span) :
    Over e (e.settle m since x (k.outcome e.breaker.name x)) m x k := by
  have timely : k ≠ .late := by
    rintro rfl
    cases told
  rw [settle_eq]
  have closed := over_conclude (m := m) (c := e.book) (Nat.lt_of_lt_of_le counted (Nat.le_add_right _ _))
    (record_tallied e.breaker m.clock ⟨m.clock.nanoseconds - since.nanoseconds⟩ told e.breaker.name x) rfl rfl
  rwa [if_neg timely, Nat.add_zero] at closed

/-- What takes an execution on leaves its results and the figures. -/
theorem Goes.onward (goes : Goes e m x v s) : Onward e (e.apply m v) x s := by
  have staged : (e.staged x s).find? (fun y => y.number == x.number) = some { x with stage := s } := by
    rw [find?_staged, goes.found, Option.map_some, if_pos rfl]
  cases goes with
  | begins found stage allowed reads =>
    have tally := Breaker.arrive_tally e.breaker m.clock
    have counts := Book.counts_updateProgress e.book x.task.id 25
    rw [allowed] at tally
    simp only [apply, found, stage, if_true, begin, allowed, Bool.not_true, Bool.false_eq_true, if_false,
      reads]
    exact ⟨staged, rfl, ledger_of_tally tally counts.1 counts.2⟩
  | asks found stage =>
    simp only [apply, found, stage]
    exact ⟨staged, rfl, rfl⟩
  | answered found stage =>
    have counts := Book.counts_updateProgress e.book x.task.id 100
    simp only [apply, found, stage]
    exact ⟨staged, rfl, ledger_of_tally rfl counts.1 counts.2⟩

/-- An event leaves an execution where it is, or takes it on, or ends it. -/
theorem turn_of_found (found : e.get? x.number = some x) (counted : x.number < e.arrived) (m : Moment)
    (v : Event) :
    Waits e m v x ∨ (∃ s, Goes e m x v s ∧ Onward e (e.apply m v) x s) ∨
      ∃ k, Ends e m x v k ∧ Over e (e.apply m v) m x k := by
  by_cases own : e.about v = x.number
  · have turn := does_apply e m v
    generalize after : e.apply m v = e' at turn
    cases turn with
    | nothing idle =>
      exact .inl ⟨by rw [after]; exact found, by rw [after], fun _ => after, idle x found⟩
    | joins => exact absurd own.symm (Nat.ne_of_lt counted)
    | @goes y v s b c goes =>
      obtain rfl := eq_of_number found goes.found (goes.about.symm.trans own)
      exact .inr (.inl ⟨s, goes, after ▸ goes.onward⟩)
    | @ends y v k b c ends breaker completed failed =>
      have number := ends.about.symm.trans own
      rcases ends.found_or_late with there | ⟨next, -⟩
      · obtain rfl := eq_of_number found there number
        refine .inr (.inr ⟨k, ends, over_conclude ?_ breaker completed failed⟩)
        exact Nat.lt_of_lt_of_le counted (Nat.le_add_right _ _)
      · exact absurd (next.symm.trans number) (Nat.ne_of_gt counted)
  · exact .inl (waits_of_other found own)

/-! ### Arrivals -/

/-- A task whose deadline has passed ends as it arrives, and the breaker is left alone. -/
theorem over_arrival {t : Task} (past : t.isPastDeadline m.date = true) :
    Over e (e.apply m (.arrive t)) m (e.newcomer m t) .late ∧
      (e.apply m (.arrive t)).breaker = e.breaker := by
  have closed : Over e _ m (e.newcomer m t) .late :=
    over_conclude (c := e.book.begin t m.date) (Nat.lt_succ_self e.arrived) rfl rfl rfl
  simp only [apply, arrive, past, if_true]
  exact ⟨closed, rfl⟩

/-- Any other task joins, and the counts are left alone. -/
theorem onward_arrival {t : Task} (timely : t.isPastDeadline m.date = false)
    (fresh : e.get? e.arrived = none) :
    Onward e (e.apply m (.arrive t)) (e.newcomer m t) .arrived ∧
      e.arrived < (e.apply m (.arrive t)).arrived := by
  simp only [apply, arrive, timely, Bool.false_eq_true, if_false]
  refine ⟨⟨?_, rfl, rfl⟩, Nat.lt_succ_self _⟩
  show (e.running ++ [e.newcomer m t]).find? (fun y => y.number == e.arrived) = some (e.newcomer m t)
  have absent : e.running.find? (fun y => y.number == e.arrived) = none := fresh
  rw [List.find?_append, absent, Option.none_or, List.find?_singleton]
  exact if_pos (beq_self_eq_true e.arrived)

end

end Executor

end WorkDispatch.Worker
