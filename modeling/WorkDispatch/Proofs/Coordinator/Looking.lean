import Mathlib.Data.List.Induction
import Mathlib.Data.List.Infix
import WorkDispatch.Proofs.Coordinator.Ledger
import WorkDispatch.Proofs.Coordinator.Moves

/-!
# A look in several steps

A loop asks for one task after the other whether it may take it, and between two of them its worker may
become active or fall silent. The queue does not change meanwhile: `scan_next` says that a look under way
either goes on beside the step, with the queue as it was, or the step is the next task that it passes
over.

So whose look is under way is at its look (`Scan.Fits`), and a loop that has parked has nothing left
behind: its next look begins with the first task. `look_passOver` says that the steps of a look with
nothing between them are one look.

What a loop has passed over stays in the queue until it has looked, under the number it was admitted
with. `exists_passes` finds in a run the step with which each such task was passed over, and at which it
did not suit.
-/

set_option autoImplicit false

namespace WorkDispatch.Coordinator

variable {c c' : Coordinator} {st : Step} {i : Nat} {s s' : Stream}

/-! ## What was passed over -/

/-- The loop whose look is under way has passed over as many tasks as its scan says. -/
theorem passedOver_of_scan {n : Scan} (hn : c.scan = some n) : c.passedOver n.stream = n.passed := by
  simp only [passedOver, hn, if_true]

/-- Only the loop whose look is under way has passed over tasks. -/
theorem scan_of_passedOver {k : Nat} (hk : k < c.passedOver i) :
    ∃ n, c.scan = some n ∧ n.stream = i ∧ k < n.passed := by
  unfold passedOver at hk
  split at hk
  · next n hn =>
    split at hk
    · next own => exact ⟨n, hn, own, hk⟩
    · cases hk
  · cases hk

/-- What a step makes of the look that is under way after it. -/
inductive Scan.Goes (c : Coordinator) (n : Scan) : Step → Prop
  | on {st : Step} (before : c.scan = some n) (unlooked : ∀ i, st ≠ .loop i .look)
      (unpassed : ∀ i, st ≠ .passOver i) : Goes c n st
  | further {s : Stream} {told : Bool} {t : Task} (stream : c.streams[n.stream]? = some s)
      (phase : s.phase = .waiting ⟨false, told⟩) (here : c.queue.tasks[c.passedOver n.stream]? = some t)
      (unsuited : c.suits s t = false) (passed : n.passed = c.passedOver n.stream + 1) :
      Goes c n (.passOver n.stream)

/-- A look is under way after a step because it was before, or because a task was passed over, and the
queue is as it was. -/
theorem scan_next (h : c.next? st = some c') {n : Scan} (hn : c'.scan = some n) :
    c'.queue = c.queue ∧ n.Goes c st := by
  cases happens_of_next h with
  | queued | taken => cases hn
  | passedOver stream phase here unsuited =>
    cases hn
    exact ⟨rfl, .further stream phase here unsuited rfl⟩
  | moved _ move =>
    cases move with
    | pick | park | putBack => cases hn
    | _ => exact ⟨rfl, .on hn nofun nofun⟩
  | _ => exact ⟨rfl, .on hn nofun nofun⟩

/-! ## Whose look it is -/

/-- A loop that is at its look stays there until it has looked, and what it was told it was told. -/
theorem Stream.Changes.looks (h : s.Changes c i st s') {told : Bool}
    (phase : s.phase = .waiting ⟨false, told⟩) (unlooked : st ≠ .loop i .look) :
    ∃ told', s'.phase = .waiting ⟨false, told'⟩ ∧ (told' = false → told = false ∧ st ≠ .tell) := by
  cases h with
  | stays untold => exact ⟨told, phase, fun deaf => ⟨deaf, untold⟩⟩
  | deaf other => exact absurd phase (other _)
  | told waits =>
    cases phase.symm.trans waits
    exact ⟨true, rfl, nofun⟩
  | fed opened => cases phase.symm.trans opened
  | read => exact ⟨told, phase, fun deaf => ⟨deaf, nofun⟩⟩
  | closed => exact ⟨told, phase, fun deaf => ⟨deaf, nofun⟩⟩
  | moved move =>
    cases move with
    | pick | park => exact absurd rfl unlooked
    | stop idle | miss idle =>
      rw [phase] at idle
      cases idle
    | ask begins =>
      rcases begins with begins | begins
      · cases phase.symm.trans begins
      · cases phase.symm.trans begins
    | resume before | hold before | recheck before | deliver before | giveUp before | putBack before
    | explain before | leave before | notice before | silence before => cases phase.symm.trans before

/-- The look is that of a loop that is at its look, and it has passed over no more tasks than there
are. -/
structure Scan.Fits (c : Coordinator) (n : Scan) : Prop where
  looks : ∃ s told, c.streams[n.stream]? = some s ∧ s.phase = .waiting ⟨false, told⟩
  within : n.passed ≤ c.queue.size

/-- A scan that a step leaves under way fits the coordinator after the step. -/
theorem fits_next (hc : ∀ n, c.scan = some n → n.Fits c) (h : c.next? st = some c') :
    ∀ n, c'.scan = some n → n.Fits c' := by
  intro n hn
  obtain ⟨queue, goes⟩ := scan_next h hn
  cases goes with
  | on before unlooked =>
    obtain ⟨⟨s, told, hs, phase⟩, within⟩ := hc n before
    obtain ⟨s', hs', change⟩ := stream_after h hs
    obtain ⟨told', still, -⟩ := change.looks phase (unlooked n.stream)
    exact ⟨⟨s', told', hs', still⟩, queue ▸ within⟩
  | further hs phase here _ passed =>
    obtain ⟨s', hs', change⟩ := stream_after h hs
    obtain ⟨told', still, -⟩ := change.looks phase nofun
    have there := (List.getElem?_eq_some_iff.mp here).1
    exact ⟨⟨s', told', hs', still⟩, passed ▸ queue ▸ there⟩

/-- In every run the scan under way fits the coordinator. -/
theorem fits_run {settings : Settings.Coordinator} {now : Instant} {ss : List Step}
    (h : (start settings now).run? ss = some c) : ∀ n, c.scan = some n → n.Fits c :=
  run?_always fits_next h fun _ hn => by cases hn

/-- A loop that is not at its look has passed over nothing. -/
theorem passedOver_eq_zero (hc : ∀ n, c.scan = some n → n.Fits c) (hs : c.streams[i]? = some s)
    (elsewhere : ∀ told, s.phase ≠ .waiting ⟨false, told⟩) : c.passedOver i = 0 := by
  refine Nat.eq_zero_of_not_pos fun some => ?_
  obtain ⟨n, hn, rfl, -⟩ := scan_of_passedOver some
  obtain ⟨r, told, hr, phase⟩ := (hc n hn).looks
  cases hs.symm.trans hr
  exact elsewhere told phase

/-- In no state of a run has a loop passed over more tasks than there are. -/
theorem passedOver_le {settings : Settings.Coordinator} {now : Instant} {ss : List Step}
    (h : (start settings now).run? ss = some c) (i : Nat) : c.passedOver i ≤ c.queue.size := by
  rcases Nat.eq_zero_or_pos (c.passedOver i) with zero | some
  · exact zero ▸ Nat.zero_le _
  · obtain ⟨n, hn, rfl, -⟩ := scan_of_passedOver some
    rw [passedOver_of_scan hn]
    exact (fits_run h n hn).within

/-! ## A look is one, however many steps it takes -/

/-- Passing over a task is seen by nobody but the loop: all else of the coordinator is as it was. -/
theorem next?_passOver (h : c.next? (.passOver i) = some c') : { c' with scan := c.scan } = c := by
  cases happens_of_next h with
  | passedOver => rfl

/-- When the first task that was not passed over does not suit, it makes no difference to a look whether it is
passed over first. -/
theorem look_passOver (hs : c.streams[i]? = some s) {d : Coordinator}
    (h : c.next? (.passOver i) = some d) : d.next? (.loop i .look) = c.next? (.loop i .look) := by
  cases happens_of_next h with
  | @passedOver _ r told t hr phase here unsuited =>
    cases hs.symm.trans hr
    obtain ⟨there, rfl⟩ := List.getElem?_eq_some_iff.mp here
    have further : ({ c with scan := some ⟨i, c.passedOver i + 1⟩ } : Coordinator).passedOver i =
        c.passedOver i + 1 := by simp only [passedOver, if_true]
    have suits : ({ c with scan := some ⟨i, c.passedOver i + 1⟩ } : Coordinator).suits s = c.suits s :=
      rfl
    have behind := List.drop_eq_getElem_cons there
    have unsuited' : ¬ c.suits s c.queue.tasks[c.passedOver i] = true := by
      rw [unsuited]
      exact Bool.false_ne_true
    have same : c.queue.takeAfter (c.passedOver i + 1) (c.suits s) =
        c.queue.takeAfter (c.passedOver i) (c.suits s) := by
      simp only [Queue.takeAfter, Queue.eraseAfter, behind, List.find?_cons_of_neg unsuited',
        List.eraseP_cons_of_neg unsuited', List.take_succ_eq_append_getElem there, List.append_assoc,
        List.singleton_append]
    simp only [next?, hs, Option.bind_some, Move.apply, look, further, suits, same]

/-! ## The queue during a look -/

/-- The movement leaves the queue as it is. -/
def Movement.leavesQueue {α : Type} : Movement α → Bool
  | enter _ | take _ | pick .. | putBack _ => false
  | _ => true

/-- Whether a movement leaves the queue alone does not depend on the things that move. -/
theorem Movement.leavesQueue_map {α β : Type} (f : α → β) (m : Movement α) :
    (m.map f).leavesQueue = m.leavesQueue := by
  cases m <;> rfl

/-- A movement that leaves the queue alone does. -/
theorem Holdings.queue_of_leavesQueue {α : Type} {task : α → Task} {h h' : Holdings α} {m : Movement α}
    (hm : h.move task m = some h') (leaves : m.leavesQueue = true) : h'.queue = h.queue := by
  cases m with
  | idle | widen | read | lose => cases hm; rfl
  | deliver i =>
    obtain ⟨a, -, rfl⟩ := Option.map_eq_some_iff.mp hm
    rfl
  | enter | take | pick | putBack => cases leaves

/-- A step during a look leaves the queue as it is. -/
theorem leavesQueue_of_scan {c c' : Coordinator} {st : Step} {n : Scan} (h : c.next? st = some c')
    (hn : c'.scan = some n) : (c.movement st).leavesQueue = true := by
  have moved := next?_holdings h
  have isOf := c.movement_isOf st
  generalize c.movement st = m at moved isOf
  cases m with
  | idle | widen | deliver | read | lose => rfl
  | enter t =>
    subst isOf
    cases happens_of_next h with
    | queued => cases hn
    | unqueued =>
      have grown : c.queue.tasks ++ [t] = c.queue.tasks := congrArg Holdings.queue (Option.some.inj moved)
      have longer := congrArg List.length grown
      rw [List.length_append, List.length_singleton] at longer
      omega
  | take p =>
    subst isOf
    cases happens_of_next h with
    | taken => cases hn
  | pick i n p =>
    obtain ⟨rfl, -⟩ := isOf
    cases happens_of_next h with
    | moved _ move => cases move with | pick | park => cases hn
  | putBack i =>
    subst isOf
    cases happens_of_next h with
    | moved _ move => cases move with | putBack => cases hn

namespace Ledger

variable {c₀ c d : Coordinator} {ss : List Step} {st : Step}

/-- The ledger has the tasks of the queue in the places where they are. -/
theorem Accounts.task_of_queue {l : Ledger} (ha : l.Accounts c) {k : Nat} {y : Admission}
    (hy : l.holdings.queue[k]? = some y) :
    c.queue.tasks[k]? = some y.1 := by
  have shown : l.holdings.queue.map Prod.fst = c.queue.tasks := congrArg Holdings.queue ha.shows
  rw [← shown, List.getElem?_map, hy, Option.map_some]

/-- The holdings of the ledger after one step more. -/
theorem holdings_concat (account : (ofRun c₀ ss).Accounts c) (hss : c₀.run? ss = some c)
    (hst : c.next? st = some d) :
    (ofRun c₀ ss).holdings.move Prod.fst
        ((c.movement st).map fun t => (t, (ofRun c₀ ss).admitted.length)) =
      some (ofRun c₀ (ss ++ [st])).holdings := by
  obtain ⟨h', hmove, hrecord, -⟩ := record_moves account hst
  rw [hmove, ofRun, follow_append hst hss]
  exact congrArg some hrecord.symm

/-- A step during a look leaves the numbered tasks of the queue as they are. -/
theorem queue_concat_of_scan (account : (ofRun c₀ ss).Accounts c) (hss : c₀.run? ss = some c)
    (hst : c.next? st = some d) {n : Scan} (hn : d.scan = some n) :
    (ofRun c₀ (ss ++ [st])).holdings.queue = (ofRun c₀ ss).holdings.queue := by
  refine Holdings.queue_of_leavesQueue (holdings_concat account hss hst) ?_
  rw [Movement.leavesQueue_map]
  exact leavesQueue_of_scan hst hn

/-! ## What a look has left behind -/

/-- After some steps the loop of a stream passed over a task that did not suit then, and that has been
queued for some steps more. -/
structure Passes (c : Coordinator) (before looking : List Step) (i : Nat) (s : Stream)
    (y : Admission) : Prop where
  unsuited : ∃ d r, c.run? before = some d ∧ d.streams[i]? = some r ∧ r.workerId = s.workerId ∧
    r.capabilities = s.capabilities ∧ d.suits r y.1 = false
  waits : ∀ part, part <+: looking →
    y ∈ (ofRun c (before ++ .passOver i :: part)).holdings.queue

/-- One more step keeps a task passed over, as long as the look goes on and the task waits. -/
theorem Passes.concat {before looking : List Step} {i : Nat} {s s' : Stream} {y : Admission}
    (passes : Passes c₀ before looking i s y) (change : s.Changes c i st s')
    (waits : y ∈ (ofRun c₀ (before ++ .passOver i :: (looking ++ [st]))).holdings.queue) :
    Passes c₀ before (looking ++ [st]) i s' y := by
  obtain ⟨d, r, hd, hr, worker, able, unsuited⟩ := passes.unsuited
  refine ⟨⟨d, r, hd, hr, worker.trans change.owner.1.symm, able.trans change.owner.2.symm, unsuited⟩,
    fun part hpart => ?_⟩
  rcases List.prefix_concat_iff.mp hpart with rfl | hpart
  · exact waits
  · exact passes.waits part hpart

/-- Whatever a loop has passed over in the look that it is at, it passed over when it did not suit. -/
theorem exists_passes {settings : Settings.Coordinator} {now : Instant} {ss : List Step}
    {c : Coordinator} (h : (start settings now).run? ss = some c) {i k : Nat} {s : Stream}
    {y : Admission} (hs : c.streams[i]? = some s) (hk : k < c.passedOver i)
    (hy : (ofRun (start settings now) ss).holdings.queue[k]? = some y) :
    ∃ before looking, ss = before ++ .passOver i :: looking ∧
      Passes (start settings now) before looking i s y := by
  -- From the last step backwards: it passes over the task, or the task was passed over before it.
  induction ss using List.reverseRecOn generalizing c s with
  | nil =>
    cases h
    cases hk
  | append_singleton ss st ih =>
    obtain ⟨e, he, last⟩ := run?_concat_eq_some h
    have account := accounts_ofRun he
    obtain ⟨n, hn, rfl, within⟩ := scan_of_passedOver hk
    have kept := queue_concat_of_scan account he last hn
    have queued := List.mem_of_getElem? hy
    rw [kept] at hy
    obtain ⟨-, goes⟩ := scan_next last hn
    -- The task was passed over with an earlier step of the same look.
    have before : ∀ r, e.streams[n.stream]? = some r → k < e.passedOver n.stream →
        ∃ before looking, ss ++ [st] = before ++ .passOver n.stream :: looking ∧
          Passes (start settings now) before looking n.stream s y := by
      intro r hr early
      obtain ⟨before, looking, rfl, passes⟩ := ih he hr early hy
      obtain ⟨s', hs', change⟩ := stream_after last hr
      cases hs.symm.trans hs'
      have split := concat_behind before looking (.passOver n.stream) st
      exact ⟨before, looking ++ [st], split, passes.concat change (split ▸ queued)⟩
    cases goes with
    | on before' unlooked =>
      obtain ⟨r, told, hr, -⟩ := (fits_run he n before').looks
      exact before r hr (by rwa [passedOver_of_scan before'])
    | @further r told t hr phase here unsuited passed =>
      rw [passed] at within
      rcases Nat.lt_succ_iff_lt_or_eq.mp within with early | rfl
      · exact before r hr early
      · obtain ⟨s', hs', change⟩ := stream_after last hr
        cases hs.symm.trans hs'
        cases here.symm.trans (account.task_of_queue hy)
        refine ⟨ss, [], rfl, ⟨e, r, he, hr, change.owner.1.symm, change.owner.2.symm, unsuited⟩,
          fun part hpart => ?_⟩
        rw [List.prefix_nil.mp hpart]
        exact queued

end Ledger

end WorkDispatch.Coordinator
