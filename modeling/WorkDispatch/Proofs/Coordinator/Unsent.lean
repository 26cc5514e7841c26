import WorkDispatch.Proofs.Coordinator.Ledger

/-!
# What has not been sent

A task that has not been sent is in the queue or in the hand of a loop. It leaves them in two ways only:
its loop puts it into a buffer, or somebody who has no stream takes it. What goes back to the queue
does not leave. `unsent_follow` is the account of it along any run: what had not been sent, and what was
admitted since, is what has not been sent now, what was sent and what was taken. The ledger gives every
task its number, so that equal tasks are not taken for one another.
-/

set_option autoImplicit false

namespace WorkDispatch.Coordinator

variable {α : Type}

namespace Holdings

/-- What has not been put into a buffer. -/
def unsent (h : Holdings α) : List α := h.view fun l => l.hand.toList

/-- What a movement puts into a buffer. -/
def sends (h : Holdings α) : Movement α → List α
  | .deliver i => (h.hand? i).toList
  | _ => []

/-- What somebody takes who has no stream. -/
def takes (task : α → Task) (h : Holdings α) : Movement α → List α
  | .take p => (h.queue.find? (p ∘ task)).toList
  | _ => []

/-- What goes from the queue and one hand to the other, or leaves both, is decided by the two. -/
theorem unsent_modify_perm {h : Holdings α} {i : Nat} {l : Lane α} (queue : List α)
    (f : Lane α → Lane α) (outgoing : List α) (hl : h.lanes[i]? = some l)
    (hp : (h.queue ++ l.hand.toList).Perm (queue ++ (f l).hand.toList ++ outgoing)) :
    h.unsent.Perm (({ h with queue }.modify i f).unsent ++ outgoing) := by
  have moved := view_modify_perm (fun l => l.hand.toList) [] outgoing hl (by rwa [List.append_nil])
  rwa [List.append_nil] at moved

/-- A lane whose hand stays as it is does not matter. -/
theorem unsent_modify_of_hand {h : Holdings α} {i : Nat} {f : Lane α → Lane α}
    (hf : ∀ l, (f l).hand = l.hand) : h.unsent.Perm (h.modify i f).unsent := by
  cases hl : h.lanes[i]? with
  | none => rw [modify_eq_self fun l there => by rw [hl] at there; cases there]
  | some l =>
    have same := unsent_modify_perm h.queue f [] hl (by rw [hf, List.append_nil])
    rwa [List.append_nil] at same

/-- What has not been sent before a movement, or comes in with it, is what has not been sent after it,
what it sends and what it takes. -/
theorem move_unsent {task : α → Task} {h h' : Holdings α} {m : Movement α}
    (hm : h.move task m = some h') :
    (h.unsent ++ m.incoming).Perm (h'.unsent ++ h.sends m ++ h.takes task m) := by
  cases m with
  | idle =>
    cases hm
    simp only [Movement.incoming, sends, takes, List.append_nil]
    exact .refl _
  | widen =>
    cases hm
    simp only [unsent, view, Movement.incoming, sends, takes, List.flatMap_append, List.flatMap_cons,
      List.flatMap_nil, Option.toList_none, List.append_nil]
    exact .refl _
  | enter a =>
    cases hm
    simp only [unsent, view, Movement.incoming, sends, takes, List.append_nil, List.append_assoc]
    exact List.perm_append_comm.append_left h.queue
  | take p =>
    cases hm
    simp only [unsent, view, Movement.incoming, sends, takes, List.append_nil]
    refine ((perm_find?_eraseP (p ∘ task) h.queue).append_right _).trans ?_
    rw [List.append_assoc]
    exact List.perm_append_comm
  | pick i n p =>
    simp only [Movement.incoming, sends, takes, List.append_nil]
    simp only [move] at hm
    split at hm
    · cases hm
      exact .refl _
    · next a ha =>
      split at hm
      · next b hl =>
        cases hm
        have split := perm_find?_eraseAfter n (p ∘ task) h.queue
        rw [ha] at split
        have moved := unsent_modify_perm (Queue.eraseAfter n (p ∘ task) h.queue)
          (fun l => { l with hand := some a }) [] hl (by
            simp only [Option.toList_none, List.append_nil]
            exact split.trans List.perm_append_comm)
        rwa [List.append_nil] at moved
      · cases hm
  | deliver i =>
    simp only [move] at hm
    obtain ⟨a, ha, rfl⟩ := Option.map_eq_some_iff.mp hm
    obtain ⟨l, hl, hand⟩ := Option.bind_eq_some_iff.mp ha
    simp only [Movement.incoming, sends, takes, ha, Option.toList_some, List.append_nil]
    -- What is delivered is the only thing that leaves what has not been sent by being sent.
    refine unsent_modify_perm h.queue (Lane.deliver a) [a] hl ?_
    rw [hand, Lane.deliver, Option.toList_none, List.append_nil]
    exact .refl _
  | putBack i =>
    simp only [move] at hm
    obtain ⟨a, ha, rfl⟩ := Option.map_eq_some_iff.mp hm
    obtain ⟨l, hl, hand⟩ := Option.bind_eq_some_iff.mp ha
    simp only [Movement.incoming, sends, takes, List.append_nil]
    have moved := unsent_modify_perm (a :: h.queue) (fun l => { l with hand := none }) [] hl (by
        simp only [hand, Option.toList_none, List.append_nil]
        exact List.perm_append_comm)
    rwa [List.append_nil] at moved
  | read i =>
    cases hm
    simp only [Movement.incoming, sends, takes, List.append_nil]
    -- What a worker reads or loses was sent before: the buffers are not part of the account.
    exact unsent_modify_of_hand fun _ => rfl
  | lose i =>
    cases hm
    simp only [Movement.incoming, sends, takes, List.append_nil]
    exact unsent_modify_of_hand fun _ => rfl

end Holdings

namespace Ledger

/-! ## Along a run -/

/-- What is noted of the movements along a schedule. -/
def noted (note : Holdings Admission → Movement Admission → List Admission) :
    Coordinator → Ledger → List Step → List Admission
  | _, _, [] => []
  | c, l, st :: sts =>
    match c.next? st with
    | some c' =>
      note l.holdings ((c.movement st).map fun t => (t, l.admitted.length)) ++
        noted note c' (l.record (c.movement st)) sts
    | none => []

/-- What is admitted along a schedule. -/
def entered : Coordinator → Ledger → List Step → List Admission := noted fun _ m => m.incoming

/-- What is put into buffers along a schedule. -/
def sent : Coordinator → Ledger → List Step → List Admission := noted Holdings.sends

/-- What is taken along a schedule by somebody who has no stream. -/
def taken : Coordinator → Ledger → List Step → List Admission := noted (Holdings.takes Prod.fst)

/-- The account of what has not been sent. -/
theorem unsent_follow {c c' : Coordinator} {ss : List Step} {l : Ledger} (ha : l.Accounts c)
    (h : c.run? ss = some c') :
    (l.holdings.unsent ++ entered c l ss).Perm
      ((follow c l ss).holdings.unsent ++ sent c l ss ++ taken c l ss) := by
  induction ss generalizing c l with
  | nil =>
    simp only [entered, sent, taken, noted, follow, List.append_nil]
    exact .refl _
  | cons st ss ih =>
    obtain ⟨d, hd, h⟩ := Option.bind_eq_some_iff.mp h
    obtain ⟨h', hmove, hrecord, -⟩ := record_moves ha hd
    have first := Holdings.move_unsent hmove
    have rest := ih (accounts_next ha hd) h
    rw [hrecord] at rest
    simp only [entered, sent, taken, noted, follow, hd] at rest ⊢
    -- Both sides are counted for each admission, by the first step and by the rest.
    refine List.perm_iff_count.mpr fun x => ?_
    have first := first.count_eq x
    have rest := rest.count_eq x
    simp only [List.count_append] at first rest ⊢
    omega

/-- Nothing is taken when only loops take tasks. -/
theorem taken_eq_nil {c : Coordinator} {ss : List Step} (hss : ∀ p, Step.take p ∉ ss) {l : Ledger} :
    taken c l ss = [] := by
  induction ss generalizing c l with
  | nil => rfl
  | cons st ss ih =>
    have other : ∀ p, c.movement st ≠ .take p := fun p hp =>
      hss p (movement_eq_take hp ▸ List.mem_cons_self)
    simp only [taken, noted] at ih ⊢
    split
    · rw [ih fun p hp => hss p (List.mem_cons_of_mem st hp), List.append_nil]
      cases hm : c.movement st with
      | take p => exact absurd hm (other p)
      | _ => rfl
    · rfl

end Ledger

end WorkDispatch.Coordinator
