import Mathlib.Data.List.Induction
import Mathlib.Data.List.Perm.Subperm
import WorkDispatch.Proofs.Worker.Endings
import WorkDispatch.Worker.Load

/-!
# The load figures of a worker

A book keeps a task under its id, and counts what has ended. The counts of ends are those of the
executions, whatever their tasks (`Tallied`). The number of active tasks is the number of entries, and that
of the executions under way only while there is an entry for each of them, which is to say that the keys of
the book are the ids of the tasks that are worked on, with their repetitions (`exact_iff`).

Two executions that overlap may have tasks of one id. The second begins in the entry of the first, and
whichever finishes first takes the entry away from the other. `figures_true_iff` says that this is the only
way: the number of active tasks is true at every moment if and only if no execution begins while another
one is under way whose task has the same id. `repeated_task_counted_once` is a run in which one does.

`exists_visits` says that an executor visits its book in no other way.
-/

set_option autoImplicit false

namespace WorkDispatch.Worker

/-- Progress makes no entry and takes none away. -/
theorem Book.keys_updateProgress (b : Book) (id : String) (percent : Int32) :
    (b.updateProgress id percent).2.active.keys = b.active.keys := by
  unfold updateProgress
  split
  · next t found => exact Table.keys_put_of_mem _ (Table.mem_keys.2 ⟨t, found⟩)
  · rfl

namespace Load

/-! ## One visit -/

/-- Nothing is under way twice or is still to come, and no entry is for nothing. -/
structure Sound (l : Load) : Prop where
  once : (l.underway.map Prod.fst).Nodup
  counted : ∀ x ∈ l.underway, x.1 < l.begun
  entries : ∀ id ∈ l.book.active.keys, id ∈ l.ids

/-- The ends are counted as they were, and every execution that began is under way or has ended. -/
structure Tallied (l : Load) : Prop where
  ended : l.book.completed + l.book.failed = l.outcomes.length
  completed : l.book.completed = l.outcomes.count true
  begun : l.begun = l.underway.length + l.outcomes.length

/-- There is an entry for every execution that is under way. -/
def Exact (l : Load) : Prop := l.book.active.keys.Perm l.ids

section

variable {l : Load} {n : Nat} {id : String}

/-- Nothing is under way before the first visit. -/
theorem sound_new : new.Sound := ⟨List.nodup_nil, nofun, nofun⟩

/-- Nothing is counted before it either. -/
theorem tallied_new : new.Tallied := ⟨rfl, rfl, rfl⟩

/-- What is found under a number is under way. -/
theorem mem_underway {x : Nat × String} (h : l.get? n = some x) : x ∈ l.underway ∧ x.1 = n := by
  have number := List.find?_some h
  rw [beq_iff_eq] at number
  exact ⟨List.mem_of_find?_eq_some h, number⟩

/-- Of what is under way, an execution that finishes leaves all but itself. -/
theorem exists_split {x : Nat × String} (h : l.Sound) (found : l.get? n = some x) :
    ∃ before after, l.underway = before ++ x :: after ∧
      (l.underway.filter fun y => y.1 != n) = before ++ after := by
  obtain ⟨there, rfl⟩ := mem_underway found
  obtain ⟨before, after, split⟩ := List.append_of_mem there
  have once := h.once
  rw [split, List.map_append, List.map_cons] at once
  have others : ∀ y ∈ before ++ after, (y.1 != x.1) = true := by
    intro y hy
    refine bne_iff_ne.2 fun same => ?_
    have absent := (List.nodup_middle.1 once).notMem
    rw [← List.map_append, ← same] at absent
    exact absent (List.mem_map_of_mem hy)
  refine ⟨before, after, split, ?_⟩
  have own : (x.1 != x.1) = false := bne_self_eq_false x.1
  rw [split, List.filter_append, List.filter_cons_of_neg (by rw [own]; exact Bool.false_ne_true),
    ← List.filter_append, List.filter_eq_self.2 others]

/-- A visit leaves no entry for nothing. -/
theorem Sound.apply (h : l.Sound) (v : Visit) : (l.apply v).Sound := by
  cases v with
  | begin t now =>
    refine ⟨?_, fun x hx => ?_, fun j hj => ?_⟩
    -- Executions are numbered as they begin, so that the next number is not in use.
    · have fresh : l.begun ∉ l.underway.map Prod.fst := by
        intro there
        obtain ⟨x, hx, number⟩ := List.mem_map.1 there
        exact absurd number (Nat.ne_of_lt (h.counted x hx))
      simp only [Load.apply, List.map_append]
      exact List.nodup_append.2 ⟨h.once, List.nodup_singleton _, fun a ha b hb => by
        rintro rfl
        cases List.mem_singleton.1 hb
        exact fresh ha⟩
    · rcases List.mem_append.1 hx with old | new
      · exact Nat.lt_succ_of_lt (h.counted x old)
      · rw [List.mem_singleton.1 new]
        exact Nat.lt_succ_self _
    · obtain ⟨v, found⟩ := Table.mem_keys.1 hj
      simp only [Load.apply, Book.begin, Table.get?_put] at found
      simp only [ids, Load.apply, List.map_append, List.mem_append]
      split at found
      · next own => exact .inr (List.mem_singleton.2 own)
      · exact .inl (h.entries j (Table.mem_keys.2 ⟨v, found⟩))
  | progress number percent =>
    simp only [Load.apply]
    split
    · refine ⟨h.once, h.counted, fun j hj => ?_⟩
      rw [Book.keys_updateProgress] at hj
      exact h.entries j hj
    · exact h
  | finish number succeeded =>
    simp only [Load.apply]
    split
    · next x found =>
      obtain ⟨there, rfl⟩ := mem_underway found
      refine ⟨(List.filter_sublist.map _).nodup h.once,
        fun y hy => h.counted y (List.mem_of_mem_filter hy), fun j hj => ?_⟩
      rw [Book.finish, Table.keys_erase, List.mem_filter, bne_iff_ne] at hj
      obtain ⟨y, hy, rfl⟩ := List.mem_map.1 (h.entries j hj.1)
      refine List.mem_map.2 ⟨y, List.mem_filter.2 ⟨hy, bne_iff_ne.2 fun same => ?_⟩, rfl⟩
      exact hj.2 (congrArg Prod.snd (List.inj_on_of_nodup_map h.once hy there same))
    · exact h

/-- A visit is counted once, and right. -/
theorem Tallied.apply (h : l.Tallied) (sound : l.Sound) (v : Visit) : (l.apply v).Tallied := by
  cases v with
  | begin t now =>
    refine ⟨h.ended, h.completed, ?_⟩
    simp only [Load.apply, List.length_append, List.length_singleton, h.begun]
    omega
  | progress number percent =>
    simp only [Load.apply]
    split
    · next x _ =>
      obtain ⟨completed, failed⟩ := Book.counts_updateProgress l.book x.2 percent
      refine ⟨?_, completed.trans h.completed, h.begun⟩
      rw [completed, failed]
      exact h.ended
    · exact h
  | finish number succeeded =>
    simp only [Load.apply]
    split
    · next x found =>
      obtain ⟨before, after, split, rest⟩ := exists_split sound found
      have begun := h.begun
      rw [split, List.length_append, List.length_cons] at begun
      have ended := h.ended
      have completed := h.completed
      refine ⟨?_, ?_, ?_⟩
      · cases succeeded with
        | true | false =>
          simp only [Book.finish, if_true, Bool.false_eq_true, if_false, List.length_cons]
          omega
      · cases succeeded with
        | true =>
          rw [List.count_cons_self, ← completed]
          rfl
        | false =>
          rw [List.count_cons_of_ne Bool.false_ne_true, ← completed]
          rfl
      · simp only [rest, List.length_append, List.length_cons]
        omega
    · exact h

end

/-! ## When the number of active tasks is true -/

section

variable {l : Load}

/-- There are never more entries than executions under way. -/
theorem Sound.active_le (h : l.Sound) : l.book.active.size ≤ l.underway.length := by
  have shorter : l.book.active.keys.length ≤ l.ids.length :=
    (List.subperm_of_subset l.book.active.nodup h.entries).length_le
  rwa [Table.length_keys, ids, List.length_map] at shorter

/-- The number of entries is that of the executions under way only when they are for them one by one. -/
theorem Sound.exact_iff (h : l.Sound) : l.book.active.size = l.underway.length ↔ l.Exact := by
  have keys : l.book.active.keys.length = l.book.active.size := l.book.active.length_keys
  have ids : l.ids.length = l.underway.length := List.length_map _
  constructor
  · intro same
    refine (List.subperm_of_subset l.book.active.nodup h.entries).perm_of_length_le ?_
    rw [ids, ← same]
    exact Nat.le_of_eq keys.symm
  · intro perm
    rw [← keys, ← ids]
    exact perm.length_eq

/-- A visit begins an execution while another one is under way whose task has the same id. -/
def Repeats (l : Load) : Visit → Prop
  | .begin t _ => t.id ∈ l.ids
  | _ => False

/-- Entries that are exact stay so, unless a task is begun again. -/
theorem Sound.exact_apply_iff (h : l.Sound) (exact : l.Exact) (v : Visit) :
    (l.apply v).Exact ↔ ¬ l.Repeats v := by
  cases v with
  | begin t now =>
    have mem : t.id ∈ l.book.active.keys ↔ t.id ∈ l.ids := exact.mem_iff
    constructor
    · intro after again
      have keys : (l.book.begin t now).active.keys = l.book.active.keys :=
        Table.keys_put_of_mem _ (mem.2 again)
      -- No entry is added, but an execution is: the two lists are not of one length any more.
      have longer := after.length_eq
      simp only [Load.apply, keys, ids, List.map_append, List.length_append, List.map_singleton,
        List.length_singleton] at longer
      have same := exact.length_eq
      rw [ids] at same
      omega
    · intro fresh
      have keys : (l.book.begin t now).active.keys = l.book.active.keys ++ [t.id] :=
        Table.keys_put_of_notMem _ fun there => fresh (mem.1 there)
      show (l.book.begin t now).active.keys.Perm ((l.underway ++ [(l.begun, t.id)]).map Prod.snd)
      rw [keys, List.map_append]
      exact exact.append_right _
  | progress number percent =>
    refine iff_of_true ?_ not_false
    simp only [Load.apply]
    split
    · show (l.book.updateProgress _ percent).2.active.keys.Perm l.ids
      rw [Book.keys_updateProgress]
      exact exact
    · exact exact
  | finish number succeeded =>
    refine iff_of_true ?_ not_false
    simp only [Load.apply]
    split
    · next x found =>
      obtain ⟨before, after, split, rest⟩ := exists_split h found
      -- Ids that are the keys of a table are distinct, so what is erased is the entry of this
      -- execution and of no other.
      have nodup : l.ids.Nodup := exact.nodup_iff.1 l.book.active.nodup
      have entries : l.ids = before.map Prod.snd ++ x.2 :: after.map Prod.snd := by
        rw [ids, split, List.map_append, List.map_cons]
      have left : l.ids.filter (· != x.2) = before.map Prod.snd ++ after.map Prod.snd := by
        rw [entries] at nodup ⊢
        rw [← nodup.erase_eq_filter, List.erase_append_right _ fun there =>
          (List.nodup_middle.1 nodup).notMem (List.mem_append_left _ there), List.erase_cons_head]
      show (l.book.active.erase x.2).keys.Perm ((l.underway.filter fun y => y.1 != number).map Prod.snd)
      rw [Table.keys_erase, rest, List.map_append, ← left]
      exact exact.filter _
    · exact exact

end

/-! ## Every run -/

theorem applyAll_concat (l : Load) (vs : List Visit) (v : Visit) :
    l.applyAll (vs ++ [v]) = (l.applyAll vs).apply v := by
  rw [applyAll, List.foldl_append]
  rfl

/-- Whatever the visits, what is counted of the ends is right, and no entry is for nothing. -/
theorem kept_applyAll (vs : List Visit) : (new.applyAll vs).Sound ∧ (new.applyAll vs).Tallied := by
  induction vs using List.reverseRecOn with
  | nil => exact ⟨sound_new, tallied_new⟩
  | append_singleton vs v ih =>
    rw [applyAll_concat]
    exact ⟨ih.1.apply v, ih.2.apply ih.1 v⟩

/-- What holds at the start, and after a visit that is none of some kind and only then, holds all along a run
if and only if none of its visits is of that kind. -/
theorem always_iff {p : Load → Prop} {q : Load → Visit → Prop} (start : p new)
    (step : ∀ before, p (new.applyAll before) → ∀ v,
      (p ((new.applyAll before).apply v) ↔ ¬ q (new.applyAll before) v)) (vs : List Visit) :
    (∀ before, before <+: vs → p (new.applyAll before)) ↔
      ∀ before v, before ++ [v] <+: vs → ¬ q (new.applyAll before) v := by
  constructor
  · intro always before v hv
    have after := always _ hv
    rw [applyAll_concat] at after
    exact (step before (always before ((List.prefix_append _ _).trans hv)) v).1 after
  · intro never before
    induction before using List.reverseRecOn with
    | nil => exact fun _ => start
    | append_singleton before v ih =>
      intro hv
      rw [applyAll_concat]
      exact (step before (ih ((List.prefix_append _ _).trans hv)) v).2 (never before v hv)

theorem applyAll_append (l : Load) (vs ws : List Visit) :
    l.applyAll (vs ++ ws) = (l.applyAll vs).applyAll ws := List.foldl_append

end Load

/-! ## The visits of an executor -/

namespace Executor

section

variable {e : Executor} {m : Moment} {x : Execution}

/-- What is under way in the book is what runs in the executor. -/
theorem get?_load (e : Executor) (n : Nat) :
    e.load.get? n = (e.get? n).map fun x => (x.number, x.task.id) := List.find?_map ..

/-- A result is completed when the execution was done. -/
theorem status_resultOf (e : Executor) (x : Execution) (date : Instant) (r : Except Failure Finding) :
    ((e.resultOf x date r).status == .completed) = r.isOk := by
  cases r with
  | ok f => rfl
  | error f =>
    simp only [resultOf]
    split
    · rfl
    · rfl

/-- An end is a visit that finishes. -/
theorem load_conclude (found : e.get? x.number = some x) (m : Moment) (r : Except Failure Finding) :
    (e.conclude m x r).load = e.load.apply (.finish x.number r.isOk) := by
  simp only [Load.apply, get?_load, found, Option.map_some]
  simp only [load, conclude, List.map_cons, status_resultOf, List.filter_map]
  rfl

/-- So is an end behind the breaker. -/
theorem load_settle (found : e.get? x.number = some x) (m : Moment) (since : Span)
    (r : Except Failure Finding) :
    (e.settle m since x r).load = e.load.apply (.finish x.number r.isOk) :=
  load_conclude (e := { e with breaker := _ }) found m r

/-- Going on to other work is no visit. -/
theorem load_goOn (e : Executor) (x : Execution) (since : Span) (w : Work) :
    (e.goOn x since w).load = e.load := by
  have same : ((fun y : Execution => (y.number, y.task.id)) ∘ fun y : Execution =>
      if y.number = x.number then { y with stage := .working since w } else y) =
        fun y => (y.number, y.task.id) := by
    funext y
    simp only [Function.comp_apply]
    split
    · rfl
    · rfl
  simp only [load, goOn, List.map_map, same]

/-- A note is a visit that reports progress. -/
theorem load_note (found : e.get? x.number = some x) (since : Span) (w : Work) (percent : Int32) :
    ((e.goOn x since w).note x percent).load = e.load.apply (.progress x.number percent) := by
  have goes := load_goOn e x since w
  simp only [Load.apply, get?_load, found, Option.map_some]
  rw [← goes]
  rfl

/-- A task that arrives late is in the book until it ends, which is at once. -/
theorem load_arrive (h : e.Orderly) (m : Moment) (t : Task) :
    (e.arrive m t).load = (e.load.apply (.begin t m.date)).applyAll
      (if t.isPastDeadline m.date then [.finish e.arrived false] else []) := by
  unfold arrive
  split
  · have fresh : (e.load.underway.find? fun x => x.1 == e.arrived) = none := by
      refine List.find?_eq_none.2 fun y hy same => ?_
      obtain ⟨x, hx, rfl⟩ := List.mem_map.1 hy
      exact absurd (beq_iff_eq.1 same) (Nat.ne_of_lt (h.counted x hx))
    have found : (e.load.apply (.begin t m.date)).get? e.arrived = some (e.arrived, t.id) := by
      show (e.load.underway ++ [(e.arrived, t.id)]).find? (fun x => x.1 == e.arrived) = _
      rw [List.find?_append, fresh, Option.none_or, List.find?_singleton]
      exact if_pos (beq_self_eq_true e.arrived)
    have own : ([(e.arrived, t.id)].filter fun x => x.1 != e.arrived) = [] := by simp
    simp only [Load.applyAll, List.foldl_cons, List.foldl_nil, Load.apply] at found ⊢
    simp only [found]
    simp only [load, conclude, List.map_cons, status_resultOf, List.filter_append, List.filter_map, own,
      List.append_nil]
    rfl
  · simp only [load, Load.applyAll, Load.apply, List.foldl_nil, List.map_append]
    rfl

/-- Whatever happens to an executor, its book is visited by its executions. -/
theorem exists_visits (h : e.Orderly) (m : Moment) (v : Event) :
    ∃ vs, (e.apply m v).load = e.load.applyAll vs := by
  have one : ∀ {l : Load} {w : Visit}, l = e.load.apply w → ∃ vs, l = e.load.applyAll vs :=
    fun {_ w} same => ⟨[w], same⟩
  have none : ∃ vs, e.load = e.load.applyAll vs := ⟨[], rfl⟩
  cases v with
  | arrive t => exact ⟨.begin t m.date :: _, load_arrive h m t⟩
  | begin n =>
    simp only [apply]
    split
    · next x found =>
      obtain rfl := (mem_of_get? found).2
      split
      · simp only [begin]
        split
        · exact one (load_conclude (e := { e with breaker := _ }) found m _)
        · split
          · exact one (load_settle (e := { e with breaker := _ }) found m m.clock _)
          · exact one (load_note (e := { e with breaker := _ }) found m.clock _ 25)
      · exact none
    · exact none
  | told n =>
    simp only [apply]
    split
    · next x found =>
      obtain rfl := (mem_of_get? found).2
      split
      -- Going on to the question changes nothing in the book.
      · exact ⟨[], load_goOn e x _ _⟩
      · exact one (load_settle found m _ _)
      · exact none
    · exact none
  | answered n r =>
    simp only [apply]
    split
    · next x found =>
      obtain rfl := (mem_of_get? found).2
      split
      · exact one (load_note found _ _ 100)
      · exact one (load_settle found m _ _)
      · exact none
    · exact none
  | overdue n =>
    simp only [apply]
    split
    · next x found =>
      obtain rfl := (mem_of_get? found).2
      split
      · exact one (load_settle found m _ _)
      · exact none
    · exact none
  | cancel n =>
    simp only [apply]
    split
    · next x found =>
      obtain rfl := (mem_of_get? found).2
      exact one (load_conclude found m _)
    · exact none

/-- Whatever happens to an executor is visits to its book. -/
theorem exists_visits_all (h : e.Orderly) (es : List (Moment × Event)) :
    ∃ vs, (e.applyAll es).load = e.load.applyAll vs := by
  induction es generalizing e with
  | nil => exact ⟨[], rfl⟩
  | cons p es ih =>
    obtain ⟨now, visited⟩ := exists_visits h p.1 p.2
    obtain ⟨later, rest⟩ := ih (apply_orderly h p.1 p.2)
    refine ⟨now ++ later, rest.trans ?_⟩
    rw [visited, Load.applyAll_append]

end

end Executor

/-! ## The figures -/

namespace Load

/-- Along any visits to a book, the number of active tasks is that of the executions under way at every moment
if and only if no execution begins while another one is under way whose task has the same id. It is never
greater. The ends are counted as they were, whatever the tasks. What happens to an executor, in whatever
order, is visits to its book. -/
theorem figures_true_iff (visits : List Visit) :
    let after (before : List Visit) := new.applyAll before
    ((∀ before, before <+: visits →
        (after before).book.counts.active = (after before).underway.length) ↔
      ∀ before t now, before ++ [.begin t now] <+: visits → t.id ∉ (after before).ids) ∧
    (∀ before, before <+: visits →
      let l := after before
      l.book.counts.active ≤ l.underway.length ∧
        l.begun = l.underway.length + l.outcomes.length ∧
        l.book.counts.completed + l.book.counts.failed = l.outcomes.length ∧
        l.book.counts.completed = l.outcomes.count true) ∧
    ∀ workerId taskTimeout c complaint es, ∃ vs,
      ((Executor.new workerId taskTimeout c complaint).applyAll es).load = after vs := by
  intro after
  refine ⟨?_, fun before _ => ?_, fun workerId taskTimeout c complaint es => ?_⟩
  · have exact : ∀ before, (after before).book.counts.active = (after before).underway.length ↔
        (after before).Exact := fun before => (kept_applyAll before).1.exact_iff
    -- One visit breaks the figures only by beginning a task again (`Sound.exact_apply_iff`), and
    -- figures that are broken once make the left side false, whatever comes later.
    have run : (∀ before, before <+: visits → (after before).Exact) ↔
        ∀ before v, before ++ [v] <+: visits → ¬ (after before).Repeats v :=
      always_iff (.refl _) (fun before exact v => (kept_applyAll before).1.exact_apply_iff exact v) visits
    refine (forall_congr' fun before => imp_congr_right fun _ => exact before).trans (run.trans ?_)
    refine forall_congr' fun before => ⟨fun never t now => never (.begin t now), fun never v hv => ?_⟩
    cases v with
    | begin t now => exact never t now hv
    | progress | finish => exact not_false
  · obtain ⟨sound, tallied⟩ := kept_applyAll before
    exact ⟨sound.active_le, tallied.begun, tallied.ended, tallied.completed⟩
  · exact Executor.exists_visits_all (Executor.new_orderly workerId taskTimeout c complaint) es

end Load

/-- A task comes twice. Its two executions are one active task, and when one of them is stopped the other is
none. -/
theorem Executor.repeated_task_counted_once :
    let m : Moment := ⟨.epoch, .zero⟩
    let e := idle.applyAll [(m, .arrive (errand "t-1")), (m, .arrive (errand "t-1"))]
    let e' := e.apply m (.cancel 0)
    e.running.length = 2 ∧ e.book.counts.active = 1 ∧
      e'.running.length = 1 ∧ e'.book.counts.active = 0 := by
  decide +kernel

end WorkDispatch.Worker
