import WorkDispatch.Proofs.Coordinator.Holdings

/-!
# A ledger of the admitted tasks

Two tasks may be equal in all that they say, so to follow one of them through a run it is given its
number among those that were admitted. A ledger holds the admitted tasks by their numbers, in the
places where the coordinator holds the tasks, and notes where those went that it holds no longer.

`Holdings.move_conserves` says that a movement neither makes nor unmakes anything that it holds: what
was there, or came in, is still there or has left to a named place. From it `accounts_run` says that
after any run the ledger lists every admitted task exactly once, and that it shows what the
coordinator holds. `admitted_tasks_placed_once` is what this means for the loops.
-/

set_option autoImplicit false

namespace WorkDispatch.Coordinator

/-- Where a task may be. What a stream's channel has accepted is in its buffer, or was read by the
worker, or was lost when the worker went away. -/
inductive Place
  | queued
  | held (stream : Nat)
  | buffered (stream : Nat)
  | read (stream : Nat)
  | lost (stream : Nat)
  /-- With somebody who has no stream. -/
  | taken
  deriving DecidableEq

/-- An admitted task and its number among those admitted. -/
abbrev Admission := Task × Nat

variable {α : Type}

/-- What comes in with a movement. -/
def Movement.incoming : Movement α → List α
  | enter a => [a]
  | _ => []

namespace Holdings

/-- The queue and, of every lane, a part. -/
def view (part : Lane α → List α) (h : Holdings α) : List α := h.queue ++ h.lanes.flatMap part

/-- All that is held. -/
def all (h : Holdings α) : List α := h.queue ++ h.lanes.flatMap Lane.all

/-- What a movement takes out of the holdings, and where to. -/
def outgoing (task : α → Task) (h : Holdings α) : Movement α → List (Place × α)
  | .take p => (h.queue.find? (p ∘ task)).toList.map (.taken, ·)
  | .read i => (h.lanes[i]?.toList.flatMap fun l => l.buffer.take 1).map (.read i, ·)
  | .lose i => (h.lanes[i]?.toList.flatMap fun l => l.buffer).map (.lost i, ·)
  | _ => []

/-- All that is held, and where. -/
def located (h : Holdings α) : List (Place × α) :=
  h.queue.map (.queued, ·) ++
    h.lanes.zipIdx.flatMap fun l =>
      l.1.hand.toList.map (.held l.2, ·) ++ l.1.buffer.map (.buffered l.2, ·)

/-- Where things are, their places left out, are all things. -/
theorem located_map_snd (h : Holdings α) : h.located.map Prod.snd = h.all := by
  have hl : ∀ (ls : List (Lane α)) (k : Nat),
      ((ls.zipIdx k).flatMap fun l =>
        l.1.hand.toList.map (Place.held l.2, ·) ++ l.1.buffer.map (Place.buffered l.2, ·)).map
          Prod.snd = ls.flatMap Lane.all := by
    intro ls
    induction ls with
    | nil => intro k; rfl
    | cons l ls ih =>
      intro k
      simp only [List.zipIdx_cons, List.flatMap_cons, List.map_append, ih, List.map_map,
        Function.comp_def, List.map_id', Lane.all]
  simp only [located, all, List.map_append, List.map_map, Function.comp_def, List.map_id', hl]

/-! ## Conservation -/

/-- A list without the first thing that suits, and that thing. -/
theorem perm_find?_eraseP (p : α → Bool) (xs : List α) :
    xs.Perm ((xs.find? p).toList ++ xs.eraseP p) := by
  induction xs with
  | nil => exact .nil
  | cons x xs ih =>
    cases hp : p x with
    | true => simp only [List.find?_cons_of_pos hp, List.eraseP_cons_of_pos hp]; exact .refl _
    | false =>
      have hn : ¬ p x = true := by rw [hp]; exact Bool.false_ne_true
      simp only [List.find?_cons_of_neg hn, List.eraseP_cons_of_neg hn]
      exact (ih.cons x).trans List.perm_middle.symm

/-- A list without the first thing that suits behind the first few, and that thing. -/
theorem perm_find?_eraseAfter (n : Nat) (p : α → Bool) (xs : List α) :
    xs.Perm (((xs.drop n).find? p).toList ++ Queue.eraseAfter n p xs) := by
  have split := (perm_find?_eraseP p (xs.drop n)).append_left (xs.take n)
  rw [List.take_append_drop] at split
  calc List.Perm xs (xs.take n ++ (((xs.drop n).find? p).toList ++ (xs.drop n).eraseP p)) := split
    List.Perm _ (((xs.drop n).find? p).toList ++ Queue.eraseAfter n p xs) := by
      rw [Queue.eraseAfter, ← List.append_assoc, ← List.append_assoc]
      exact List.perm_append_comm.append_right _

/-- Only the lane that changes matters to a part of all lanes. -/
theorem flatMap_modify_perm {ls : List (Lane α)} {i : Nat} {l : Lane α} (part : Lane α → List α)
    (f : Lane α → Lane α) (hl : ls[i]? = some l) :
    ∃ rest, (ls.flatMap part).Perm (part l ++ rest) ∧
      ((ls.modify i f).flatMap part).Perm (part (f l) ++ rest) := by
  induction ls generalizing i with
  | nil => cases hl
  | cons k ls ih =>
    cases i with
    | zero =>
      cases hl
      exact ⟨ls.flatMap part, .refl _, .refl _⟩
    | succ i =>
      obtain ⟨rest, before, after⟩ := ih hl
      have swap : ∀ xs : List α, (part k ++ (xs ++ rest)).Perm (xs ++ (part k ++ rest)) := fun xs => by
        rw [← List.append_assoc, ← List.append_assoc]
        exact List.perm_append_comm.append_right rest
      refine ⟨part k ++ rest, ?_, ?_⟩
      · exact (before.append_left (part k)).trans (swap _)
      · exact (after.append_left (part k)).trans (swap _)

/-- Moving things between the queue and one lane, or out of the holdings, is decided by that lane. -/
theorem view_modify_perm {h : Holdings α} {i : Nat} {l : Lane α} {f : Lane α → Lane α}
    {queue : List α} (part : Lane α → List α) (incoming outgoing : List α)
    (hl : h.lanes[i]? = some l)
    (hp : (h.queue ++ part l ++ incoming).Perm (queue ++ part (f l) ++ outgoing)) :
    (h.view part ++ incoming).Perm (({ h with queue }.modify i f).view part ++ outgoing) := by
  obtain ⟨rest, before, after⟩ := flatMap_modify_perm part f hl
  have shift : ∀ xs ys zs : List α, (xs ++ (ys ++ rest) ++ zs).Perm (xs ++ ys ++ zs ++ rest) := by
    intro xs ys zs
    rw [← List.append_assoc, List.append_assoc (xs ++ ys), List.append_assoc (xs ++ ys)]
    exact List.perm_append_comm.append_left _
  calc List.Perm (h.view part ++ incoming) (h.queue ++ (part l ++ rest) ++ incoming) :=
        (before.append_left _).append_right _
    List.Perm _ (h.queue ++ part l ++ incoming ++ rest) := shift _ _ _
    List.Perm _ (queue ++ part (f l) ++ outgoing ++ rest) := hp.append_right rest
    List.Perm _ (queue ++ (part (f l) ++ rest) ++ outgoing) := (shift _ _ _).symm
    List.Perm _ _ := (after.symm.append_left _).append_right _

/-- A movement neither makes nor unmakes anything. -/
theorem move_conserves {task : α → Task} {h h' : Holdings α} {m : Movement α}
    (hm : h.move task m = some h') :
    (h.all ++ m.incoming).Perm (h'.all ++ (h.outgoing task m).map Prod.snd) := by
  cases m with
  | idle => cases hm; exact .refl _
  | widen =>
    cases hm
    simp only [all, List.flatMap_append, List.flatMap_cons, List.flatMap_nil, Lane.all,
      Option.toList_none, List.append_nil]
    exact .refl _
  | enter a =>
    cases hm
    simp only [all, Movement.incoming, outgoing, List.map_nil, List.append_nil, List.append_assoc]
    exact List.perm_append_comm.append_left h.queue
  | take p =>
    cases hm
    have split := perm_find?_eraseP (p ∘ task) h.queue
    simp only [all, Movement.incoming, outgoing, List.map_map, Function.comp_def, List.map_id',
      List.append_nil]
    refine (split.append_right _).trans ?_
    rw [List.append_assoc]
    exact List.perm_append_comm
  | pick i n p =>
    simp only [move] at hm
    split at hm
    · cases hm; exact .refl _
    · next a ha =>
      split at hm
      · next b hl =>
        cases hm
        -- From here on one lane changes at a time, and `view_modify_perm` leaves the rest out of
        -- it.
        refine view_modify_perm Lane.all [] [] hl ?_
        have split := perm_find?_eraseAfter n (p ∘ task) h.queue
        rw [ha] at split
        simp only [Lane.all, Option.toList_none, List.nil_append,
          List.append_nil, Option.toList_some]
        refine (split.append_right b).trans ?_
        simp only [Option.toList_some, List.cons_append, List.nil_append]
        exact List.perm_middle.symm
      · cases hm
  | deliver i =>
    simp only [move] at hm
    obtain ⟨a, ha, rfl⟩ := Option.map_eq_some_iff.mp hm
    obtain ⟨l, hl, ha⟩ := Option.bind_eq_some_iff.mp ha
    refine view_modify_perm Lane.all [] [] hl ?_
    simp only [Lane.all, Lane.deliver, ha, Option.toList_some,
      Option.toList_none, List.append_nil, List.nil_append]
    -- The thing goes from before the buffer to behind it.
    have swap : ([a] ++ l.buffer).Perm (l.buffer ++ [a]) := List.perm_append_comm
    exact swap.append_left h.queue
  | putBack i =>
    simp only [move] at hm
    obtain ⟨a, ha, rfl⟩ := Option.map_eq_some_iff.mp hm
    obtain ⟨l, hl, ha⟩ := Option.bind_eq_some_iff.mp ha
    refine view_modify_perm Lane.all [] [] hl ?_
    simp only [Lane.all, ha, Option.toList_some, Option.toList_none,
      List.append_nil, List.nil_append, List.cons_append]
    exact List.perm_middle
  | read i =>
    cases hm
    cases hl : h.lanes[i]? with
    | none =>
      -- Nobody is there, so nothing is read.
      rw [modify_eq_self fun l h => by rw [hl] at h; cases h]
      simp only [outgoing, hl, Option.toList_none, List.flatMap_nil, List.map_nil]
      exact .refl _
    | some l =>
      refine view_modify_perm Lane.all [] _ hl ?_
      simp only [outgoing, hl, Option.toList_some, List.flatMap_cons,
        List.flatMap_nil, List.append_nil, List.map_map, Function.comp_def, List.map_id', Lane.all,
        List.append_assoc]
      have split : l.buffer.Perm (l.buffer.tail ++ l.buffer.take 1) := by
        cases l.buffer with
        | nil => exact .nil
        | cons b bs =>
          have swap : ([b] ++ bs).Perm (bs ++ [b]) := List.perm_append_comm
          exact swap
      exact (split.append_left _).append_left _
  | lose i =>
    cases hm
    cases hl : h.lanes[i]? with
    | none =>
      rw [modify_eq_self fun l h => by rw [hl] at h; cases h]
      simp only [outgoing, hl, Option.toList_none, List.flatMap_nil, List.map_nil]
      exact .refl _
    | some l =>
      refine view_modify_perm Lane.all [] _ hl ?_
      simp only [outgoing, hl, Option.toList_some, List.flatMap_cons,
        List.flatMap_nil, List.append_nil, List.map_map, Function.comp_def, List.map_id', Lane.all,
        List.append_assoc]
      exact .refl _

end Holdings

/-! ## Who holds what -/

namespace Holdings

/-- What is in a hand is located there. -/
theorem mem_located_held {h : Holdings α} {i : Nat} {a : α} :
    (Place.held i, a) ∈ h.located ↔ h.hand? i = some a := by
  simp only [located, List.mem_append, List.mem_map, Prod.mk.injEq, reduceCtorEq, false_and,
    and_false, exists_false, false_or, or_false, List.mem_flatMap, Place.held.injEq,
    List.mem_zipIdx_iff_getElem?, Prod.exists, hand?, Option.bind_eq_some_iff, Option.mem_toList]
  constructor
  · rintro ⟨l, j, hl, b, hb, rfl, rfl⟩
    exact ⟨l, hl, hb⟩
  · rintro ⟨l, hl, ha⟩
    exact ⟨l, i, hl, a, ha, rfl, rfl⟩

/-- What is in a buffer is located there. -/
theorem mem_located_buffered {h : Holdings α} {i : Nat} {a : α} :
    (Place.buffered i, a) ∈ h.located ↔ ∃ l, h.lanes[i]? = some l ∧ a ∈ l.buffer := by
  simp only [located, List.mem_append, List.mem_map, Prod.mk.injEq, reduceCtorEq, false_and,
    and_false, exists_false, false_or, List.mem_flatMap, Place.buffered.injEq,
    List.mem_zipIdx_iff_getElem?, Prod.exists]
  constructor
  · rintro ⟨l, j, hl, b, hb, rfl, rfl⟩
    exact ⟨l, hl, hb⟩
  · rintro ⟨l, hl, ha⟩
    exact ⟨l, i, hl, a, ha, rfl, rfl⟩

/-- What is in the queue is located there. -/
theorem mem_located_queued {h : Holdings α} {a : α} :
    (Place.queued, a) ∈ h.located ↔ a ∈ h.queue := by
  simp only [located, List.mem_append, List.mem_map, Prod.mk.injEq, reduceCtorEq, false_and,
    and_false, exists_false, or_false, List.mem_flatMap, true_and, exists_eq_right]

/-- Nothing that is there has been taken out. -/
theorem taken_notMem_located {h : Holdings α} {a : α} : (Place.taken, a) ∉ h.located := by
  simp [located]

theorem lanes_modify_eq {h : Holdings α} {i : Nat} {l : Lane α} (f : Lane α → Lane α)
    (hl : h.lanes[i]? = some l) : (h.modify i f).lanes[i]? = some (f l) := by
  simp only [modify, List.getElem?_modify_eq, hl, Option.map_eq_map, Option.map_some]

theorem lanes_modify_ne {i j : Nat} (h : Holdings α) (f : Lane α → Lane α) (hij : j ≠ i) :
    (h.modify j f).lanes[i]? = h.lanes[i]? := by
  simp only [modify, List.getElem?_modify_ne f h.lanes hij]

/-- A hand that is not emptied by a movement stays as it is. -/
theorem hand?_modify {h : Holdings α} {i j : Nat} {a : α} {f : Lane α → Lane α}
    (hf : ∀ l, h.lanes[j]? = some l → j = i → (f l).hand = l.hand) (ha : h.hand? i = some a) :
    (h.modify j f).hand? i = some a := by
  obtain ⟨l, hl, hla⟩ := Option.bind_eq_some_iff.mp ha
  by_cases hij : j = i
  · subst hij
    rw [hand?, lanes_modify_eq f hl, Option.bind_some, hf l hl rfl, hla]
  · rw [hand?, lanes_modify_ne h f hij, hl, Option.bind_some, hla]

/-- What a loop holds goes into its own buffer or back to the queue, or it holds it on. -/
theorem move_held {task : α → Task} {h h' : Holdings α} {m : Movement α} {i : Nat} {a : α}
    (hm : h.move task m = some h') (ha : h.hand? i = some a) :
    h'.hand? i = some a ∨ (∃ l, h'.lanes[i]? = some l ∧ a ∈ l.buffer) ∨ a ∈ h'.queue := by
  cases m with
  | idle | enter | take => cases hm; exact .inl ha
  | widen =>
    cases hm
    obtain ⟨l, hl, ha⟩ := Option.bind_eq_some_iff.mp ha
    refine .inl ?_
    rw [hand?, List.getElem?_append_left (List.getElem?_eq_some_iff.mp hl).1, hl, Option.bind_some,
      ha]
  | pick j n p =>
    simp only [move] at hm
    split at hm
    · cases hm; exact .inl ha
    · split at hm
      · next hl =>
        cases hm
        refine .inl (hand?_modify (fun l _ hij => ?_) ha)
        -- A full hand takes nothing.
        subst hij
        rw [hand?, hl] at ha
        cases ha
      · cases hm
  | deliver j =>
    simp only [move] at hm
    obtain ⟨b, hb, rfl⟩ := Option.map_eq_some_iff.mp hm
    by_cases hij : j = i
    · subst hij
      rw [ha, Option.some.injEq] at hb
      subst hb
      obtain ⟨l, hl, _⟩ := Option.bind_eq_some_iff.mp ha
      refine .inr (.inl ⟨_, lanes_modify_eq _ hl, ?_⟩)
      exact List.mem_append_right _ (List.mem_singleton_self a)
    · exact .inl (hand?_modify (fun _ _ h => absurd h hij) ha)
  | putBack j =>
    simp only [move] at hm
    obtain ⟨b, hb, rfl⟩ := Option.map_eq_some_iff.mp hm
    by_cases hij : j = i
    · subst hij
      rw [ha, Option.some.injEq] at hb
      subst hb
      exact .inr (.inr List.mem_cons_self)
    · exact .inl (hand?_modify (fun _ _ h => absurd h hij) ha)
  | read j => cases hm; exact .inl (hand?_modify (fun _ _ _ => rfl) ha)
  | lose j => cases hm; exact .inl (hand?_modify (fun _ _ _ => rfl) ha)

end Holdings

/-! ## The ledger of a run -/

/-- Every task that was admitted, by its number, and where it is. -/
structure Ledger where
  admitted : List Task
  holdings : Holdings Admission
  /-- What the coordinator holds no longer. -/
  gone : List (Place × Admission)

namespace Ledger

/-- Nothing was admitted. -/
def blank : Ledger := ⟨[], ⟨[], []⟩, []⟩

/-- Writes a movement down; a task that comes in is given the next number. -/
def record (l : Ledger) (m : Movement Task) : Ledger :=
  let m' := m.map fun t => (t, l.admitted.length)
  { admitted := l.admitted ++ m.incoming
    holdings := (l.holdings.move Prod.fst m').getD l.holdings
    gone := l.gone ++ l.holdings.outgoing Prod.fst m' }

/-- Writes down what the steps of a run do. -/
def follow : Coordinator → Ledger → List Step → Ledger
  | _, l, [] => l
  | c, l, s :: ss =>
    match c.next? s with
    | some c' => follow c' (l.record (c.movement s)) ss
    | none => l

/-- The ledger of a run. -/
def ofRun (c : Coordinator) (ss : List Step) : Ledger := follow c blank ss

/-- Where the admitted tasks are. -/
def located (l : Ledger) : List (Place × Admission) := l.holdings.located ++ l.gone

/-- The ledger shows what the coordinator holds, has each admitted task once, and has noted of none
that is gone that it is still held. -/
structure Accounts (l : Ledger) (c : Coordinator) : Prop where
  shows : l.holdings.map Prod.fst = c.holdings
  once : (l.located.map Prod.snd).Perm l.admitted.zipIdx
  away : ∀ i x, (Place.held i, x) ∉ l.gone

end Ledger

/-- A movement of other things lets in as many of them. -/
theorem Movement.incoming_map {β : Type} (f : α → β) (m : Movement α) :
    (m.map f).incoming = m.incoming.map f := by
  cases m <;> rfl

/-- A movement lets nothing out into a hand. -/
theorem Holdings.held_notMem_outgoing (task : α → Task) (h : Holdings α) (m : Movement α) (i : Nat)
    (a : α) : (Place.held i, a) ∉ h.outgoing task m := by
  cases m <;> simp [outgoing]

/-- Only what somebody takes is taken. -/
theorem Holdings.take_of_taken_mem {β : Type} {f : β → α} {task : α → Task} {h : Holdings α}
    {m : Movement β} {a : α} (ha : (Place.taken, a) ∈ h.outgoing task (m.map f)) :
    ∃ p, m = .take p := by
  cases m with
  | take p => exact ⟨p, rfl⟩
  | _ => simp [outgoing, Movement.map] at ha

/-- Only a take takes out. -/
theorem movement_eq_take {c : Coordinator} {s : Step} {p : Task → Bool}
    (h : c.movement s = .take p) : s = .take p := by
  have isOf := c.movement_isOf s
  rwa [h] at isOf

namespace Ledger

/-- Nothing has been admitted to a coordinator that has just started. -/
theorem accounts_start (settings : Settings.Coordinator) (now : Instant) :
    blank.Accounts (start settings now) :=
  ⟨rfl, .nil, fun _ _ => List.not_mem_nil⟩

/-- What a step does to the holdings can be done to the numbered tasks as well. -/
theorem record_moves {l : Ledger} {c c' : Coordinator} {s : Step} (ha : l.Accounts c)
    (h : c.next? s = some c') :
    ∃ h', l.holdings.move Prod.fst ((c.movement s).map fun t => (t, l.admitted.length)) = some h' ∧
      (l.record (c.movement s)).holdings = h' ∧ h'.map Prod.fst = c'.holdings := by
  have moved := next?_holdings h
  have hm : (c.movement s) =
      ((c.movement s).map fun t => (t, l.admitted.length)).map Prod.fst := by
    cases c.movement s <;> rfl
  rw [← ha.shows, hm, Holdings.move_map Prod.fst Prod.fst id fun _ => rfl] at moved
  obtain ⟨h', hmove, hmap⟩ := Option.map_eq_some_iff.mp moved
  exact ⟨h', hmove, by simp only [record, hmove, Option.getD_some], hmap⟩

/-- One step keeps the account. -/
theorem accounts_next {l : Ledger} {c c' : Coordinator} {s : Step} (ha : l.Accounts c)
    (h : c.next? s = some c') : (l.record (c.movement s)).Accounts c' := by
  obtain ⟨h', hmove, hrecord, hshows⟩ := record_moves ha h
  have conserved := Holdings.move_conserves hmove
  have once := ha.once
  refine ⟨hrecord ▸ hshows, ?_, ?_⟩
  · have new : (l.record (c.movement s)).admitted.zipIdx =
        l.admitted.zipIdx ++ (c.movement s).incoming.map fun t => (t, l.admitted.length) := by
      simp only [record, List.zipIdx_append, Nat.zero_add]
      cases c.movement s <;> rfl
    rw [Movement.incoming_map] at conserved
    simp only [located, List.map_append, Holdings.located_map_snd] at once
    simp only [located, List.map_append, Holdings.located_map_snd, hrecord, new]
    simp only [record, List.map_append]
    -- What was held and what comes in is what is held now and what leaves.
    calc List.Perm (h'.all ++ (l.gone.map Prod.snd ++ _)) (h'.all ++ (_ ++ l.gone.map Prod.snd)) :=
          List.perm_append_comm.append_left h'.all
      List.Perm _ (l.holdings.all ++ _ ++ l.gone.map Prod.snd) := by
        rw [← List.append_assoc]; exact conserved.symm.append_right _
      List.Perm _ (l.holdings.all ++ l.gone.map Prod.snd ++ _) := by
        rw [List.append_assoc, List.append_assoc]; exact List.perm_append_comm.append_left _
      List.Perm _ _ := once.append_right _
  · intro i x hmem
    rcases List.mem_append.mp hmem with hmem | hmem
    · exact ha.away i x hmem
    · exact Holdings.held_notMem_outgoing _ _ _ _ _ hmem

/-- A run keeps the account. -/
theorem accounts_follow {c c' : Coordinator} {ss : List Step} :
    ∀ {l : Ledger}, l.Accounts c → c.run? ss = some c' → (follow c l ss).Accounts c' := by
  induction ss generalizing c with
  | nil => intro l ha h; cases h; exact ha
  | cons s ss ih =>
    intro l ha h
    obtain ⟨d, hd, h⟩ := Option.bind_eq_some_iff.mp h
    simp only [follow, hd]
    exact ih (accounts_next ha hd) h

/-- The ledger of a run accounts for the coordinator at its end. -/
theorem accounts_ofRun {settings : Settings.Coordinator} {now : Instant} {ss : List Step}
    {c : Coordinator} (h : (start settings now).run? ss = some c) :
    (ofRun (start settings now) ss).Accounts c :=
  accounts_follow (accounts_start settings now) h

/-- A ledger that follows a run and one more step records the movement of that step last. -/
theorem follow_append {c c' d : Coordinator} {s : Step} {ss : List Step} (hs : c'.next? s = some d) :
    ∀ {l : Ledger}, c.run? ss = some c' →
      follow c l (ss ++ [s]) = (follow c l ss).record (c'.movement s) := by
  induction ss generalizing c with
  | nil => intro l h; cases h; simp only [List.nil_append, follow, hs]
  | cons r ss ih =>
    intro l h
    obtain ⟨b, hb, h⟩ := Option.bind_eq_some_iff.mp h
    simp only [List.cons_append, follow, hb]
    exact ih h

/-- A task is in the hand of a loop when the ledger says so. -/
theorem Accounts.hand {l : Ledger} {c : Coordinator} (ha : l.Accounts c) {i : Nat} {x : Admission}
    (hx : (Place.held i, x) ∈ l.located) :
    l.holdings.hand? i = some x ∧ ∃ s, c.streams[i]? = some s ∧ s.hand = some x.1 := by
  have held : l.holdings.hand? i = some x := by
    rcases List.mem_append.mp hx with hx | hx
    · exact Holdings.mem_located_held.mp hx
    · exact absurd hx (ha.away i x)
  refine ⟨held, ?_⟩
  have shown : c.holdings.hand? i = some x.1 := by
    rw [← ha.shows, Holdings.hand?_map, held, Option.map_some]
  obtain ⟨k, hk, hand⟩ := Option.bind_eq_some_iff.mp shown
  obtain ⟨s, hs, rfl⟩ := (List.getElem?_map (f := Stream.lane)).symm.trans hk |> Option.map_eq_some_iff.mp
  exact ⟨s, hs, hand⟩

/-- While nobody but loops takes tasks, none is with somebody else. -/
theorem follow_taken {c : Coordinator} {ss : List Step} (hss : ∀ p, Step.take p ∉ ss) :
    ∀ {l : Ledger}, (∀ x, (Place.taken, x) ∉ l.gone) →
      ∀ x, (Place.taken, x) ∉ (follow c l ss).gone := by
  induction ss generalizing c with
  | nil => exact fun hl => hl
  | cons s ss ih =>
    intro l hl
    have step : ∀ x, (Place.taken, x) ∉ (l.record (c.movement s)).gone := by
      intro x hx
      rcases List.mem_append.mp hx with hx | hx
      · exact hl x hx
      · obtain ⟨p, hp⟩ := Holdings.take_of_taken_mem hx
        exact hss p (movement_eq_take hp ▸ List.mem_cons_self)
    simp only [follow]
    split
    · exact ih (fun p hp => hss p (List.mem_cons_of_mem s hp)) step
    · exact hl

end Ledger

/-! ## Every admitted task is in one place -/

/-- After any run of a new coordinator, whatever the order of its steps, the ledger shows what the
coordinator holds and lists every admitted task exactly once, in one place: queued, held by one loop,
or accepted by one channel. Only a loop that delivers or returns a task holds one, so a loop that has
ended holds none; and what a loop holds it goes on holding until it has put it into its own channel
or back into the queue. -/
theorem admitted_tasks_placed_once {settings : Settings.Coordinator} {now : Instant}
    {ss : List Step} {c : Coordinator} (h : (start settings now).run? ss = some c) :
    let l := Ledger.ofRun (start settings now) ss
    l.holdings.map Prod.fst = c.holdings ∧
    (l.located.map Prod.snd).Perm l.admitted.zipIdx ∧
    (∀ i x, (Place.held i, x) ∈ l.located →
      ∃ s, c.streams[i]? = some s ∧ (s.phase = .delivering x.1 ∨ s.phase = .returning x.1)) ∧
    (∀ i s e, c.streams[i]? = some s → s.phase = .ended e → ∀ x, (Place.held i, x) ∉ l.located) ∧
    (∀ s d, c.next? s = some d → ∀ i x, (Place.held i, x) ∈ l.located →
      ∃ p, (p, x) ∈ (Ledger.ofRun (start settings now) (ss ++ [s])).located ∧
        (p = .held i ∨ p = .buffered i ∨ p = .queued)) ∧
    ((∀ p, Step.take p ∉ ss) → ∀ x, (Place.taken, x) ∉ l.located) := by
  intro l
  have account : l.Accounts c := Ledger.accounts_ofRun h
  refine ⟨account.shows, account.once, fun i x hx => ?_, fun i s e hs he x hx => ?_,
    fun s d hd i x hx => ?_, fun hss x hx => ?_⟩
  · obtain ⟨_, s, hs, hand⟩ := account.hand hx
    refine ⟨s, hs, ?_⟩
    unfold Stream.hand at hand
    split at hand
    · next hp => cases hand; exact .inl hp
    · next hp => cases hand; exact .inr hp
    · cases hand
  · obtain ⟨_, s', hs', hand⟩ := account.hand hx
    rw [hs, Option.some.injEq] at hs'
    rw [← hs', ← Stream.phase_hand, he] at hand
    cases hand
  -- The ledger after one more step is the ledger with the movement of that step recorded in it.
  · obtain ⟨held, _⟩ := account.hand hx
    obtain ⟨h', hmove, hrecord, _⟩ := Ledger.record_moves account hd
    have now_located : ∀ p, (p, x) ∈ h'.located →
        (p, x) ∈ (Ledger.ofRun (start settings now) (ss ++ [s])).located := fun p hp => by
      rw [Ledger.ofRun, Ledger.follow_append hd h]
      exact List.mem_append_left _ (hrecord ▸ hp)
    rcases Holdings.move_held hmove held with hh | hh | hh
    · exact ⟨_, now_located _ (Holdings.mem_located_held.mpr hh), .inl rfl⟩
    · exact ⟨_, now_located _ (Holdings.mem_located_buffered.mpr hh), .inr (.inl rfl)⟩
    · exact ⟨_, now_located _ (Holdings.mem_located_queued.mpr hh), .inr (.inr rfl)⟩
  · rcases List.mem_append.mp hx with hx | hx
    · exact absurd hx Holdings.taken_notMem_located
    · exact Ledger.follow_taken hss (fun _ => List.not_mem_nil) x hx

/-- A worker goes away while one task waits in its buffer and its loop holds another. -/
def departure : List Step :=
  let task (id : String) : Task := .plain id .cleanup [] .epoch
  [.register ⟨"w", "worker", .empty, "1", .empty⟩, .openStream "w" (Fresh.token 0) 1 false, .feed 0,
    .queueTask (task "a"), .queueTask (task "b"),
    .loop 0 .check, .loop 0 .wake, .loop 0 .look, .loop 0 .deliver,
    .loop 0 .check, .loop 0 .wake, .loop 0 .look, .closeStream 0,
    .loop 0 .giveUp, .loop 0 .putBack, .loop 0 .explain, .loop 0 .leave]

/-- Both tasks have one place each at the end. -/
theorem admitted_tasks_placed_once_departure :
    ∃ c, (start .default .epoch).run? departure = some c ∧
      (Ledger.ofRun (start .default .epoch) departure).holdings.map Prod.fst = c.holdings ∧
      ((Ledger.ofRun (start .default .epoch) departure).located.map Prod.snd).Perm
        (Ledger.ofRun (start .default .epoch) departure).admitted.zipIdx := by
  have finishes : ((start .default .epoch).run? departure).isSome = true := by decide +kernel
  obtain ⟨c, hc⟩ := Option.isSome_iff_exists.mp finishes
  have placed := admitted_tasks_placed_once hc
  exact ⟨c, hc, placed.1, placed.2.1⟩

-- The first task went with the worker, and the second is back in the queue.
example : (Ledger.ofRun (start .default .epoch) departure).located.map (fun x => (x.1, x.2.2)) =
    [(.queued, 1), (.lost 0, 0)] := by decide +kernel

end WorkDispatch.Coordinator
