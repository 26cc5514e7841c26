import Mathlib.Data.List.Induction
import Mathlib.Data.List.Infix
import WorkDispatch.Proofs.Coordinator.Looking
import WorkDispatch.Proofs.Coordinator.Loss
import WorkDispatch.Proofs.Queue.Order

/-!
# The order of tasks that come back

Tasks come in at the end and a loop takes the first of a type, so the tasks of each type are queued in
the order in which they were admitted. One that could not be delivered goes to the front. There it is
again before those of its type that were admitted later, and that is all there is to say as long as
loops give back one task at a time.

There are two ways in which a younger task comes back to stand before an older one of its type. Two
loops hold tasks of the type, and the loop of the older one puts it back first (`Ledger.Overtakes`). Or
a loop takes the younger task and leaves the older one: it asks for each task anew whether its worker is
active, so when the worker becomes active in the middle of a look, the loop has passed over tasks that it
would take now (`Ledger.Skips`). `queued_in_order_iff` says that the order is lost in no third way: it is
there in every state of a run if and only if no task is put back after the one or the other.
`younger_returned_first` is a run in which the first happens, and the next taker gets the younger task;
in the example after it the second does.
-/

set_option autoImplicit false

namespace WorkDispatch.Coordinator

/-! ## The queue and the hands after a movement -/

namespace Holdings

variable {α : Type} {task : α → Task} {h h' : Holdings α} {m : Movement α}

/-- Modifying one lane changes no other hand. -/
theorem hand?_modify_eq (h : Holdings α) (f : Lane α → Lane α) (i j : Nat) :
    (h.modify j f).hand? i =
      if j = i then (h.lanes[i]?.map f).bind Lane.hand else h.hand? i := by
  by_cases same : j = i
  · simp only [hand?, modify, same, List.getElem?_modify_eq, Option.map_eq_map, if_true]
  · simp only [hand?, lanes_modify_ne h f same, same, if_false]

/-- A change that puts nothing into the hand of a lane puts nothing into any. -/
theorem of_hand?_modify {f : Lane α → Lane α} {i j : Nat} {x : α}
    (hx : (h.modify j f).hand? i = some x) (hf : ∀ l a, (f l).hand = some a → l.hand = some a) :
    h.hand? i = some x := by
  rw [hand?_modify_eq] at hx
  split at hx
  · obtain ⟨l, hl, hand⟩ := Option.bind_eq_some_iff.mp hx
    obtain ⟨k, hk, rfl⟩ := Option.map_eq_some_iff.mp hl
    rw [hand?, hk, Option.bind_some, hf k x hand]
  · exact hx

/-- What is queued was queued before, or it came in, or a loop has put it back. -/
theorem mem_queue_of_move {y : α} (hm : h.move task m = some h') (hy : y ∈ h'.queue) :
    y ∈ h.queue ∨ m = .enter y ∨ ∃ j, m = .putBack j ∧ h.hand? j = some y := by
  cases m with
  | idle | widen | read | lose => cases hm; exact .inl hy
  | enter a =>
    cases hm
    rcases List.mem_append.mp hy with hy | hy
    · exact .inl hy
    · cases List.mem_singleton.mp hy
      exact .inr (.inl rfl)
  | take p => cases hm; exact .inl (List.mem_of_mem_eraseP hy)
  | pick j n p =>
    simp only [move] at hm
    split at hm
    · cases hm; exact .inl hy
    · split at hm
      · cases hm; exact .inl ((Queue.eraseAfter_sublist n _ _).mem hy)
      · cases hm
  | deliver j =>
    obtain ⟨a, -, rfl⟩ := Option.map_eq_some_iff.mp hm
    exact .inl hy
  | putBack j =>
    obtain ⟨a, held, rfl⟩ := Option.map_eq_some_iff.mp hm
    rcases List.mem_cons.mp hy with rfl | hy
    · exact .inr (.inr ⟨j, rfl, held⟩)
    · exact .inl hy

/-- What is in a hand was there before, or the loop has picked it from the queue. -/
theorem hand?_of_move {i : Nat} {x : α} (hm : h.move task m = some h') (hx : h'.hand? i = some x) :
    h.hand? i = some x ∨
      ∃ n p, m = .pick i n p ∧ (h.queue.drop n).find? (p ∘ task) = some x := by
  cases m with
  | idle | enter | take => cases hm; exact .inl hx
  | widen =>
    cases hm
    simp only [hand?, List.getElem?_append] at hx
    split at hx
    · exact .inl hx
    · obtain ⟨l, hl, hand⟩ := Option.bind_eq_some_iff.mp hx
      -- The lane that is new has nothing in hand.
      cases List.mem_singleton.mp (List.mem_of_getElem? hl)
      cases hand
  | pick j n p =>
    simp only [move] at hm
    split at hm
    · cases hm; exact .inl hx
    · next a found =>
      split at hm
      · next b hl =>
        cases hm
        rw [hand?_modify_eq] at hx
        split at hx
        · next same =>
          subst same
          rw [hl] at hx
          cases hx
          exact .inr ⟨n, p, rfl, found⟩
        · exact .inl hx
      · cases hm
  | deliver j | putBack j =>
    obtain ⟨a, -, rfl⟩ := Option.map_eq_some_iff.mp hm
    exact .inl (of_hand?_modify hx fun _ _ empty => by cases empty)
  | read j | lose j =>
    cases hm
    exact .inl (of_hand?_modify hx fun _ _ hand => hand)

/-- A queue stays in an order when what comes in belongs at its end, and what is put back at its
front. -/
theorem pairwise_queue_of_move {R : α → α → Prop} (hm : h.move task m = some h')
    (order : h.queue.Pairwise R) (enters : ∀ a, m = .enter a → ∀ y ∈ h.queue, R y a)
    (returns : ∀ j a, m = .putBack j → h.hand? j = some a → ∀ y ∈ h.queue, R a y) :
    h'.queue.Pairwise R := by
  cases m with
  | idle | widen | read | lose => cases hm; exact order
  | enter a =>
    cases hm
    refine List.pairwise_append.mpr ⟨order, List.pairwise_singleton R a, fun y hy b hb => ?_⟩
    cases List.mem_singleton.mp hb
    exact enters a rfl y hy
  | take p => cases hm; exact order.sublist List.eraseP_sublist
  | pick j n p =>
    simp only [move] at hm
    split at hm
    · cases hm; exact order
    · split at hm
      · cases hm; exact order.sublist (Queue.eraseAfter_sublist n _ _)
      · cases hm
  | deliver j =>
    obtain ⟨a, -, rfl⟩ := Option.map_eq_some_iff.mp hm
    exact order
  | putBack j =>
    obtain ⟨a, held, rfl⟩ := Option.map_eq_some_iff.mp hm
    exact List.pairwise_cons.mpr ⟨returns j a rfl held, order⟩

end Holdings

/-- Only a look picks, and it judges as its loop does, behind the tasks passed over. -/
theorem movement_eq_pick {c : Coordinator} {st : Step} {i n : Nat} {p : Task → Bool}
    (h : c.movement st = .pick i n p) :
    st = .loop i .look ∧ n = c.passedOver i ∧ ∃ s, c.streams[i]? = some s ∧ p = c.suits s := by
  have isOf := c.movement_isOf st
  rwa [h] at isOf

/-- Only putting back puts back. -/
theorem movement_eq_putBack {c : Coordinator} {st : Step} {i : Nat} (h : c.movement st = .putBack i) :
    st = .loop i .putBack := by
  have isOf := c.movement_isOf st
  rwa [h] at isOf

namespace Ledger

/-! ## Order -/

/-- The tasks of each type are queued in the order in which they were admitted. -/
def InOrder (l : Ledger) : Prop :=
  l.holdings.queue.Pairwise fun x y => x.1.type = y.1.type → x.2 < y.2

instance (l : Ledger) : Decidable l.InOrder := inferInstanceAs (Decidable (List.Pairwise _ _))

/-- After some steps a loop puts a task back, which is then queued for some steps more, all the while
another loop holds a younger task of its type. -/
structure Overtakes (c : Coordinator) (before between : List Step) (i j : Nat) (x y : Admission) :
    Prop where
  same : x.1.type = y.1.type
  older : y.2 < x.2
  held : (ofRun c before).holdings.hand? j = some y
  waits : ∀ part, part <+: between →
    y ∈ (ofRun c (before ++ .loop j .putBack :: part)).holdings.queue
  holds : ∀ part, part <+: between →
    (ofRun c (before ++ .loop j .putBack :: part)).holdings.hand? i = some x

/-- After some steps a loop passes over a task while its worker is not active. The look goes on, and when
the worker is active the loop takes a younger task of the type, which it holds for some steps more. The
older one is queued all the while. -/
structure Skips (c : Coordinator) (before looking between : List Step) (i : Nat) (x y : Admission) :
    Prop where
  same : x.1.type = y.1.type
  older : y.2 < x.2
  stale : ∃ d s, c.run? before = some d ∧ d.streams[i]? = some s ∧
    d.registry.isActiveAt s.workerId d.now = false
  active : ∃ d s, c.run? (before ++ .passOver i :: looking) = some d ∧ d.streams[i]? = some s ∧
    d.registry.isActiveAt s.workerId d.now = true
  waits : ∀ part, part <+: looking ++ .loop i .look :: between →
    y ∈ (ofRun c (before ++ .passOver i :: part)).holdings.queue
  holds : ∀ part, part <+: between →
    (ofRun c (before ++ .passOver i :: (looking ++ .loop i .look :: part))).holdings.hand? i = some x

/-- Whatever is queued while a loop holds a younger task of its type was put back meanwhile, or the loop
has passed over it. -/
def Explained (c : Coordinator) (ss : List Step) : Prop :=
  ∀ i x y, (ofRun c ss).holdings.hand? i = some x → y ∈ (ofRun c ss).holdings.queue →
    x.1.type = y.1.type → y.2 < x.2 →
      (∃ before between j, ss = before ++ .loop j .putBack :: between ∧
        Overtakes c before between i j x y) ∨
      ∃ before looking between, ss = before ++ .passOver i :: (looking ++ .loop i .look :: between) ∧
        Skips c before looking between i x y

section

variable {l : Ledger} {c : Coordinator} {x y : Admission} {i : Nat}

/-- Whatever is located was admitted. -/
theorem Accounts.mem_admitted (ha : l.Accounts c) {p : Place} (hx : (p, x) ∈ l.located) :
    x ∈ l.admitted.zipIdx :=
  ha.once.mem_iff.mp (List.mem_map_of_mem hx)

theorem held_located (hx : l.holdings.hand? i = some x) : (Place.held i, x) ∈ l.located :=
  List.mem_append_left _ (Holdings.mem_located_held.mpr hx)

theorem queued_located (hy : y ∈ l.holdings.queue) : (Place.queued, y) ∈ l.located :=
  List.mem_append_left _ (Holdings.mem_located_queued.mpr hy)

/-- Whatever is located has a number that was given out. -/
theorem Accounts.lt_length (ha : l.Accounts c) {p : Place} (hx : (p, x) ∈ l.located) :
    x.2 < l.admitted.length :=
  List.snd_lt_of_mem_zipIdx (ha.mem_admitted hx)

/-- A task in a hand and a queued one have different numbers. -/
theorem Accounts.number_ne (ha : l.Accounts c) (hx : l.holdings.hand? i = some x)
    (hy : y ∈ l.holdings.queue) : x.2 ≠ y.2 := by
  intro same
  have held := held_located hx
  have queued := queued_located hy
  have atx := List.mem_zipIdx_iff_getElem?.mp (ha.mem_admitted held)
  have aty := List.mem_zipIdx_iff_getElem?.mp (ha.mem_admitted queued)
  rw [same, aty, Option.some.injEq] at atx
  have eq : y = x := Prod.ext atx same.symm
  cases ha.place_eq held (eq ▸ queued)

end

/-- What comes in has the next number. -/
theorem number_of_enter {m : Movement Task} {n : Nat} {y : Admission}
    (h : m.map (fun t => (t, n)) = .enter y) : y.2 = n := by
  cases m <;> cases h
  rfl

/-- A movement of numbered tasks picks only where that of the tasks does. -/
theorem of_map_eq_pick {m : Movement Task} {k n i : Nat} {p : Task → Bool}
    (h : m.map (fun t => (t, k)) = .pick i n p) : m = .pick i n p := by
  cases m <;> cases h
  rfl

/-- It puts back only where that of the tasks does. -/
theorem of_map_eq_putBack {m : Movement Task} {n i : Nat}
    (h : m.map (fun t => (t, n)) = .putBack i) : m = .putBack i := by
  cases m <;> cases h
  rfl

/-- Of the tasks among which a loop looks it leaves none that is older than what it takes, and of its
type. -/
theorem no_older_left {xs : List Admission} {x y : Admission} {p : Task → Bool}
    (order : xs.Pairwise fun x y => x.1.type = y.1.type → x.2 < y.2) (hp : Queue.OnType p)
    (found : xs.find? (p ∘ Prod.fst) = some x) (hy : y ∈ xs) (same : x.1.type = y.1.type) :
    ¬ y.2 < x.2 := by
  intro older
  obtain ⟨suits, before, after, split, unsuited, -⟩ := Queue.exists_split found
  rcases List.mem_append.mp (split ▸ hy) with hy | hy
  · have alike := hp x.1 y.1 same
    rw [suits, unsuited y hy] at alike
    cases alike
  · rcases List.mem_cons.mp hy with rfl | hy
    · exact Nat.lt_irrefl _ older
    · rw [split] at order
      have tail := (List.pairwise_append.mp order).2.1
      exact Nat.lt_asymm older (List.rel_of_pairwise_cons tail hy same)

section

variable {c₀ c d : Coordinator} {ss : List Step} {st : Step}

/-! ## One step more -/

/-- One more step keeps a task overtaken, as long as both tasks are where they were. -/
theorem Overtakes.concat {before between : List Step} {i j : Nat} {x y : Admission}
    (passes : Overtakes c before between i j x y)
    (waits : y ∈ (ofRun c (before ++ .loop j .putBack :: (between ++ [st]))).holdings.queue)
    (holds : (ofRun c (before ++ .loop j .putBack :: (between ++ [st]))).holdings.hand? i = some x) :
    Overtakes c before (between ++ [st]) i j x y := by
  refine { passes with waits := fun part hpart => ?_, holds := fun part hpart => ?_ }
  · rcases List.prefix_concat_iff.mp hpart with rfl | hpart
    · exact waits
    · exact passes.waits part hpart
  · rcases List.prefix_concat_iff.mp hpart with rfl | hpart
    · exact holds
    · exact passes.holds part hpart

/-- One more step keeps a task skipped, as long as both tasks are where they were. -/
theorem Skips.concat {before looking between : List Step} {i : Nat} {x y : Admission}
    (skips : Skips c before looking between i x y)
    (waits : y ∈ (ofRun c (before ++ .passOver i ::
      (looking ++ .loop i .look :: (between ++ [st])))).holdings.queue)
    (holds : (ofRun c (before ++ .passOver i ::
      (looking ++ .loop i .look :: (between ++ [st])))).holdings.hand? i = some x) :
    Skips c before looking (between ++ [st]) i x y := by
  refine { skips with waits := fun part hpart => ?_, holds := fun part hpart => ?_ }
  · rw [← concat_behind] at hpart waits
    rcases List.prefix_concat_iff.mp hpart with rfl | hpart
    · exact waits
    · exact skips.waits part hpart
  · rcases List.prefix_concat_iff.mp hpart with rfl | hpart
    · exact holds
    · exact skips.holds part hpart

/-- A loop that takes a task and leaves an older one of its type has passed over the older one in the
same look, while its worker was not active. -/
theorem exists_skips {settings : Settings.Coordinator} {now : Instant} {ss : List Step}
    {c : Coordinator} (hss : (start settings now).run? ss = some c)
    (order : (ofRun (start settings now) ss).InOrder) {i : Nat} {s : Stream}
    (hs : c.streams[i]? = some s) {x y : Admission}
    (found : ((ofRun (start settings now) ss).holdings.queue.drop (c.passedOver i)).find?
      (c.suits s ∘ Prod.fst) = some x)
    (queued : y ∈ (ofRun (start settings now) ss).holdings.queue) (same : x.1.type = y.1.type)
    (older : y.2 < x.2)
    (waits : y ∈ (ofRun (start settings now) (ss ++ [.loop i .look])).holdings.queue)
    (holds : (ofRun (start settings now) (ss ++ [.loop i .look])).holdings.hand? i = some x) :
    ∃ before looking, ss = before ++ .passOver i :: looking ∧
      Skips (start settings now) before looking [] i x y := by
  have byType : Queue.OnType (c.suits s) := Queue.onType_suits c s
  rw [← List.take_append_drop (c.passedOver i) (ofRun _ ss).holdings.queue] at queued
  rcases List.mem_append.mp queued with passed | left
  · obtain ⟨k, hk⟩ := List.mem_iff_getElem?.mp passed
    obtain ⟨early, hy⟩ : k < c.passedOver i ∧ (ofRun (start settings now) ss).holdings.queue[k]? =
        some y := by
      rw [List.getElem?_take] at hk
      split at hk
      · next early => exact ⟨early, hk⟩
      · cases hk
    obtain ⟨before, looking, rfl, passes⟩ := exists_passes hss hs early hy
    -- At the look the worker was active, as the task that was taken suited.
    have suited : (c.suits s ∘ Prod.fst) x = true := List.find?_some found
    obtain ⟨able, active⟩ := Bool.and_eq_true_iff.mp ((byType x.1 y.1 same).symm.trans suited)
    obtain ⟨e, r, he, hr, worker, alike, unsuited⟩ := passes.unsuited
    have stale : e.registry.isActiveAt r.workerId e.now = false := by
      rwa [suits, alike, able, Bool.true_and] at unsuited
    have split := concat_behind before looking (.passOver i) (.loop i .look)
    refine ⟨before, looking, rfl, ⟨same, older, ⟨e, r, he, hr, stale⟩, ⟨c, s, hss, hs, active⟩,
      fun part hpart => ?_, fun part hpart => ?_⟩⟩
    · rcases List.prefix_concat_iff.mp hpart with rfl | hpart
      · exact split ▸ waits
      · exact passes.waits part hpart
    · rw [List.prefix_nil.mp hpart]
      exact split ▸ holds
  · exact absurd older (no_older_left (order.sublist (List.drop_sublist ..)) byType found left same)

/-- One step: what is put back waits from now on, what was put back or passed over before waits on, and a
loop that looks leaves older tasks only if it has passed over them. -/
theorem Explained.concat {settings : Settings.Coordinator} {now : Instant} {ss : List Step}
    {c d : Coordinator} {st : Step} (explained : Explained (start settings now) ss)
    (order : (ofRun (start settings now) ss).InOrder) (hss : (start settings now).run? ss = some c)
    (hst : c.next? st = some d) : Explained (start settings now) (ss ++ [st]) := by
  have account := accounts_ofRun hss
  have moved := holdings_concat account hss hst
  intro i x y hx hy same older
  rcases Holdings.hand?_of_move moved hx with held | ⟨n, p, picks, found⟩
  · rcases Holdings.mem_queue_of_move moved hy with queued | enters | ⟨j, returns, back⟩
    -- Both were where they are now: what explained it before explains it still.
    · rcases explained i x y held queued same older with ⟨before, between, j, rfl, passes⟩ |
        ⟨before, looking, between, rfl, skips⟩
      · have split := concat_behind before between (.loop j .putBack) st
        exact .inl ⟨before, between ++ [st], j, split, passes.concat (split ▸ hy) (split ▸ hx)⟩
      · have split := concat_behind_both before looking between (.passOver i) (.loop i .look) st
        exact .inr ⟨before, looking, between ++ [st], split, skips.concat (split ▸ hy) (split ▸ hx)⟩
    · -- What comes in is younger than all that is held.
      have number := number_of_enter enters
      have known := account.lt_length (held_located held)
      exact absurd older (by omega)
    -- The older task comes back in this step, which is the first of the two causes.
    · have step : st = .loop j .putBack := movement_eq_putBack (of_map_eq_putBack returns)
      subst step
      refine .inl ⟨ss, [], j, rfl, same, older, back, fun part hpart => ?_, fun part hpart => ?_⟩
      · rw [List.prefix_nil.mp hpart]
        exact hy
      · rw [List.prefix_nil.mp hpart]
        exact hx
  · obtain ⟨rfl, rfl, s, hs, rfl⟩ := movement_eq_pick (of_map_eq_pick picks)
    rcases Holdings.mem_queue_of_move moved hy with queued | enters | ⟨j, returns, -⟩
    -- The younger task is taken in this step, over an older one: the loop has passed over that one.
    · obtain ⟨before, looking, rfl, skips⟩ :=
        exists_skips hss order hs found queued same older hy hx
      have split := concat_behind before looking (.passOver i) (.loop i .look)
      exact .inr ⟨before, looking, [], split, skips⟩
    · rw [picks] at enters
      cases enters
    · rw [picks] at returns
      cases returns

/-- One step keeps the order if it puts nothing back over an older task. -/
theorem InOrder.concat (order : (ofRun c₀ ss).InOrder) (account : (ofRun c₀ ss).Accounts c)
    (hss : c₀.run? ss = some c) (hst : c.next? st = some d)
    (returns : ∀ i x y, st = .loop i .putBack → (ofRun c₀ ss).holdings.hand? i = some x →
      y ∈ (ofRun c₀ ss).holdings.queue → x.1.type = y.1.type → ¬ y.2 < x.2) :
    (ofRun c₀ (ss ++ [st])).InOrder := by
  refine Holdings.pairwise_queue_of_move (holdings_concat account hss hst) order ?_ ?_
  · intro y enters x hx _
    rw [number_of_enter enters]
    exact account.lt_length (queued_located hx)
  · intro i x back held y queued same
    have step := movement_eq_putBack (of_map_eq_putBack back)
    have old := returns i x y step held queued same
    have differ := account.number_ne held queued
    omega

/-- What is put back over an older task of its type stands before it. -/
theorem not_inOrder_of_putBack {i : Nat} {x y : Admission} (account : (ofRun c₀ ss).Accounts c)
    (hss : c₀.run? ss = some c) (hst : c.next? (.loop i .putBack) = some d)
    (held : (ofRun c₀ ss).holdings.hand? i = some x) (queued : y ∈ (ofRun c₀ ss).holdings.queue)
    (same : x.1.type = y.1.type) (older : y.2 < x.2) :
    ¬ (ofRun c₀ (ss ++ [.loop i .putBack])).InOrder := by
  intro order
  have moved := holdings_concat account hss hst
  obtain ⟨a, here, after⟩ := Option.map_eq_some_iff.mp moved
  rw [held, Option.some.injEq] at here
  subst here
  rw [InOrder, ← after] at order
  exact Nat.lt_asymm (List.rel_of_pairwise_cons order queued same) older

end

end Ledger

/-! ## Along a run -/

/-- Where a run comes to its end, each of its parts from the beginning does. -/
theorem run?_isSome_of_prefix {c c' : Coordinator} {part ss : List Step} (h : c.run? ss = some c')
    (hp : part <+: ss) : ∃ d, c.run? part = some d := by
  obtain ⟨rest, rfl⟩ := hp
  rw [run?_append] at h
  obtain ⟨d, hd, -⟩ := Option.bind_eq_some_iff.mp h
  exact ⟨d, hd⟩

/-- A run in whose every state the order is kept puts nothing back over an older task of its type. -/
theorem no_older_queued {settings : Settings.Coordinator} {now : Instant} {ss : List Step}
    {c : Coordinator} (h : (start settings now).run? ss = some c)
    (order : ∀ part, part <+: ss → (Ledger.ofRun (start settings now) part).InOrder)
    {part : List Step} {i : Nat} (hp : part ++ [.loop i .putBack] <+: ss) {x y : Admission}
    (held : (Ledger.ofRun (start settings now) part).holdings.hand? i = some x)
    (queued : y ∈ (Ledger.ofRun (start settings now) part).holdings.queue)
    (same : x.1.type = y.1.type) : ¬ y.2 < x.2 := by
  intro older
  obtain ⟨e, he⟩ := run?_isSome_of_prefix h hp
  obtain ⟨d, hd, hst⟩ := run?_concat_eq_some he
  exact Ledger.not_inOrder_of_putBack (Ledger.accounts_ofRun hd) hd hst held queued same older
    (order _ hp)

/-- In every state of a run the tasks of each type are queued in the order in which they were admitted,
if and only if no loop puts a task back over an older one of its type that another loop has put back
while it held its own, or that it has itself passed over, while its worker was not active, in the look
with which it took its own. -/
theorem queued_in_order_iff {settings : Settings.Coordinator} {now : Instant} {ss : List Step}
    {c : Coordinator} (h : (start settings now).run? ss = some c) :
    (∀ part, part <+: ss → (Ledger.ofRun (start settings now) part).InOrder) ↔
      (∀ before between i j x y,
        before ++ .loop j .putBack :: (between ++ [.loop i .putBack]) <+: ss →
          ¬ Ledger.Overtakes (start settings now) before between i j x y) ∧
      ∀ before looking between i x y,
        before ++ .passOver i :: (looking ++ .loop i .look :: (between ++ [.loop i .putBack])) <+: ss →
          ¬ Ledger.Skips (start settings now) before looking between i x y := by
  constructor
  · intro order
    refine ⟨fun before between i j x y hp passes => ?_, fun before looking between i x y hp skips => ?_⟩
    · rw [← concat_behind] at hp
      exact no_older_queued h order hp (passes.holds between (List.prefix_refl _))
        (passes.waits between (List.prefix_refl _)) passes.same passes.older
    · rw [← concat_behind_both] at hp
      exact no_older_queued h order hp (skips.holds between (List.prefix_refl _))
        (skips.waits _ (List.prefix_refl _)) skips.same skips.older
  · rintro ⟨returned, left⟩ part hp
    -- The order alone is no invariant of single steps: what a loop holds over an older task has to
    -- be explained along with it.
    suffices both : (Ledger.ofRun (start settings now) part).InOrder ∧
        Ledger.Explained (start settings now) part from both.1
    induction part using List.reverseRecOn with
    | nil => exact ⟨.nil, fun _ _ _ _ hy => absurd hy List.not_mem_nil⟩
    | append_singleton part st ih =>
      obtain ⟨order, explained⟩ := ih ((List.prefix_append part [st]).trans hp)
      obtain ⟨e, he⟩ := run?_isSome_of_prefix h hp
      obtain ⟨d, hd, hst⟩ := run?_concat_eq_some he
      refine ⟨order.concat (Ledger.accounts_ofRun hd) hd hst ?_, explained.concat order hd hst⟩
      rintro i x y rfl held queued same older
      rcases explained i x y held queued same older with ⟨before, between, j, rfl, passes⟩ |
        ⟨before, looking, between, rfl, skips⟩
      · refine returned before between i j x y ?_ passes
        rwa [concat_behind] at hp
      · refine left before looking between i x y ?_ skips
        rwa [concat_behind_both] at hp

/-- Two loops hold one task of a type each, the first loop the older one. Their workers go away, and
the loops put the tasks back one after the other. -/
def parting (first second : Nat) : List Step :=
  [.register ⟨"v", "worker", .empty, "1", .empty⟩, .openStream "v" (Fresh.token 0) 1 false, .feed 0,
    .register ⟨"w", "worker", .empty, "1", .empty⟩, .openStream "w" (Fresh.token 1) 1 false, .feed 1,
    .queueTask (.plain "a" .cleanup [] .epoch), .queueTask (.plain "b" .cleanup [] .epoch),
    .loop 0 .check, .loop 0 .wake, .loop 0 .look, .loop 1 .check, .loop 1 .wake, .loop 1 .look,
    .closeStream 0, .closeStream 1, .loop first .giveUp, .loop first .putBack,
    .loop second .giveUp, .loop second .putBack]

/-- When the loop with the younger task is the first to put back, nothing is out of order. -/
theorem queued_in_order_iff_parting :
    ∃ c, (start .default .epoch).run? (parting 1 0) = some c ∧
      c.queue.tasks.map Task.id = ["a", "b"] ∧
      (∀ before between i j x y,
        before ++ .loop j .putBack :: (between ++ [.loop i .putBack]) <+: parting 1 0 →
          ¬ Ledger.Overtakes (start .default .epoch) before between i j x y) ∧
      ∀ before looking between i x y,
        before ++ .passOver i :: (looking ++ .loop i .look :: (between ++ [.loop i .putBack])) <+:
            parting 1 0 →
          ¬ Ledger.Skips (start .default .epoch) before looking between i x y := by
  have ends : ((start .default .epoch).run? (parting 1 0)).map (·.queue.tasks.map Task.id) =
      some ["a", "b"] := by decide +kernel
  obtain ⟨c, hc, queue⟩ := Option.map_eq_some_iff.mp ends
  have order : ∀ part ∈ (parting 1 0).inits,
      (Ledger.ofRun (start .default .epoch) part).InOrder := by decide +kernel
  exact ⟨c, hc, queue, (queued_in_order_iff hc).mp fun part hp => order part ((List.mem_inits ..).mpr hp)⟩

/-- The loop of the older task puts it back first, and the younger one comes to stand before it. -/
theorem younger_returned_first :
    ∃ c, (start .default .epoch).run? (parting 0 1) = some c ∧
      ¬ (Ledger.ofRun (start .default .epoch) (parting 0 1)).InOrder ∧
      (Ledger.ofRun (start .default .epoch) (parting 0 1)).admitted.map Task.id = ["a", "b"] ∧
      c.queue.tasks.map Task.id = ["b", "a"] := by
  have ends : ((start .default .epoch).run? (parting 0 1)).map (·.queue.tasks.map Task.id) =
      some ["b", "a"] := by decide +kernel
  obtain ⟨c, hc, queue⟩ := Option.map_eq_some_iff.mp ends
  exact ⟨c, hc, by decide +kernel, by decide +kernel, queue⟩

/-- A loop passes over a task while its worker is silent, the worker is heard of, and the loop takes the
task behind it. The worker goes away, and the loop puts that task back. -/
def overlooked : List Step :=
  [.register ⟨"w", "worker", .empty, "1", .empty⟩, .openStream "w" (Fresh.token 0) 1 false, .feed 0,
    .queueTask (.plain "a" .cleanup [] .epoch), .queueTask (.plain "b" .cleanup [] .epoch),
    .loop 0 .check, .loop 0 .wake, .pass (.ofSeconds 120), .passOver 0,
    .beginHeartbeat "w", .endHeartbeat 0 (Fresh.token 0) .idle none, .loop 0 .look,
    .closeStream 0, .loop 0 .giveUp, .loop 0 .putBack]

-- One loop is enough when its worker becomes active in the middle of a look.
example : ((start .default .epoch).run? overlooked).map (·.queue.tasks.map Task.id) =
    some ["b", "a"] := by decide +kernel

end WorkDispatch.Coordinator
