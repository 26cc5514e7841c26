import WorkDispatch.Proofs.Coordinator.Records
import WorkDispatch.Proofs.Coordinator.Unsent

/-!
# What a shutdown leaves behind

From the shutdown on no loop begins to wait, so that every loop runs through the rest of its round and
ends. `Stream.Phase.left` counts the moves that it can still make and `Stream.Phase.sends` the tasks that
it can still send: a move lowers the one, a delivery the other (`Moves.windsDown`), and whatever else
happens raises neither. As a loop that has not ended can always move, it ends.

A record has the stream of a loop only as long as the loop has not given it up (`Linked`), and the tasks
are accounted for by what has not been sent (`Ledger.unsent_follow`): when all loops have ended, all of
that is in the queue. `drains_after_shutdown` puts these together.

It is not said when a loop makes its moves, only that it can, and how many they are.
-/

set_option autoImplicit false

namespace WorkDispatch.Coordinator

/-! ## Phases of a loop that is to end -/

namespace Stream.Phase

/-- How many moves a loop can still make when the coordinator shuts down. -/
def left : Phase → Nat
  | .ended _ => 0
  | .announcing _ => 1
  | .leaving _ => 2
  | .choosing | .holding _ | .waiting ⟨true, _⟩ | .returned => 3
  | .opened | .checking | .returning _ => 4
  | .delivering _ => 5
  | .waiting ⟨false, _⟩ => 6

/-- How many tasks it can still send. -/
def sends : Phase → Nat
  | .delivering _ | .waiting ⟨false, _⟩ => 1
  | _ => 0

/-- Why the loop ends, when it is about to end. -/
def ending? : Phase → Option Ending
  | .leaving e | .announcing e | .ended e => some e
  | _ => none

/-- The loop has given its stream up. -/
def gaveUp : Phase → Bool
  | .announcing _ | .ended _ => true
  | _ => false

/-- There is no loop that has not ended. -/
def isAtRest : Phase → Bool
  | .opened | .ended _ => true
  | _ => false

/-- No loop is more than six moves from its end. -/
theorem left_le (p : Phase) : p.left ≤ 6 := by
  unfold left
  split <;> decide

/-- A loop sends at most one more task. -/
theorem sends_le (p : Phase) : p.sends ≤ 1 := by
  unfold sends
  split <;> decide

/-- A loop between two rounds is three moves from its end if it ends now, with nothing in hand. -/
theorem of_isIdle {p : Phase} (idle : p.isIdle = true) :
    p.left = 3 ∧ p.sends = 0 ∧ p.ending? = none := by
  unfold isIdle at idle
  split at idle
  · exact ⟨rfl, rfl, rfl⟩
  · exact ⟨rfl, rfl, rfl⟩
  · exact ⟨rfl, rfl, rfl⟩
  · cases idle

/-- A loop at rest has nothing in hand. -/
theorem hand_of_isAtRest {p : Phase} (rest : p.isAtRest = true) : p.hand = none := by
  unfold isAtRest at rest
  split at rest
  · rfl
  · rfl
  · cases rest

/-- How a loop that is to end goes from one phase to another, with so many moves, of which so many are
deliveries. If it was not about to end before, the shutdown ends it. -/
structure WindsDown (moves deliveries : Nat) (p p' : Phase) : Prop where
  left : moves + p'.left ≤ p.left
  sends : deliveries + p'.sends ≤ p.sends
  kept : ∀ e, p.ending? = some e → p'.ending? = some e
  reason : ∀ e, p.ending? = none → p'.ending? = some e → e = .shuttingDown

/-- What stays as it is winds down by no moves. -/
theorem WindsDown.refl (p : Phase) : WindsDown 0 0 p p :=
  ⟨by omega, by omega, fun _ h => h, fun _ none some => by rw [none] at some; cases some⟩

/-- Moves and sends add up. -/
theorem WindsDown.trans {m m' n n' : Nat} {p q r : Phase} (h : WindsDown m n p q)
    (h' : WindsDown m' n' q r) : WindsDown (m' + m) (n' + n) p r where
  left := by have := h.left; have := h'.left; omega
  sends := by have := h.sends; have := h'.sends; omega
  kept := fun e he => h'.kept e (h.kept e he)
  reason := fun e none he => by
    cases between : q.ending? with
    | none => exact h'.reason e between he
    | some e' =>
      rw [h'.kept e' between, Option.some.injEq] at he
      exact he ▸ h.reason e' none between

end Stream.Phase

open Stream.Phase

/-- The step is a move of the loop of a stream. -/
def Step.isMoveOf (i : Nat) : Step → Bool
  | .loop j _ => j == i
  | _ => false

/-- With the step the loop of a stream sends a task. -/
def Step.isSendOf (i : Nat) : Step → Bool
  | .loop j .deliver => j == i
  | _ => false

/-- The phase of a loop; there is none yet of a stream that is not there. -/
def phaseOf (c : Coordinator) (i : Nat) : Stream.Phase :=
  (c.streams[i]?.map Stream.phase).getD .opened

variable {c c' : Coordinator} {st : Step} {i : Nat} {s s' : Stream}

/-- The phase of a stream that is there is its own. -/
theorem phaseOf_eq (hs : c.streams[i]? = some s) : c.phaseOf i = s.phase := by
  simp only [phaseOf, hs, Option.map_some, Option.getD_some]

/-! ## What a shutdown makes of a loop -/

/-- During a shutdown each move brings a loop nearer to its end, and it sends only by a delivery. -/
theorem Moves.windsDown {m : Move} {d : Coordinator} (h : Moves c i s m s' d)
    (down : c.isShuttingDown = true) :
    WindsDown 1 (if m = .deliver then 1 else 0) s.phase s'.phase := by
  have notUp : c.isShuttingDown ≠ false := by rw [down]; decide
  cases h with
  | stop idle =>
    obtain ⟨three, zero, none⟩ := of_isIdle idle
    refine ⟨?_, ?_, fun e he => ?_, fun e _ he => (Option.some.inj he).symm⟩
    · rw [three]
      exact Nat.le_refl 3
    · rw [zero]
      exact Nat.le_refl 0
    · rw [none] at he
      cases he
  | miss _ up | recheck _ _ up | ask _ up => exact absurd up notUp
  | resume phase | hold phase | pick phase | park phase | deliver phase | giveUp phase
    | putBack phase =>
    rw [phase]
    exact ⟨by simp [left], by simp [sends], nofun, nofun⟩
  | explain phase =>
    rw [phase]
    simp only [down, if_true]
    exact ⟨by simp [left], by simp [sends], nofun, fun e _ he => (Option.some.inj he).symm⟩
  | leave phase =>
    rw [phase]
    cases s.announces && _ == Ending.shuttingDown with
    | true => exact ⟨by simp [left], by simp [sends], fun e he => he, nofun⟩
    | false => exact ⟨by simp [left], by simp [sends], fun e he => he, nofun⟩
  | notice phase | silence phase =>
    rw [phase]
    exact ⟨by simp [left], by simp [sends], fun e he => he, nofun⟩

/-- A step that is no move of the loop. -/
theorem Step.notOf (h : ∀ m, st ≠ .loop i m) : st.isMoveOf i = false ∧ st.isSendOf i = false := by
  cases st with
  | loop j m =>
    have other : (j == i) = false := beq_eq_false_iff_ne.mpr fun same => h m (same ▸ rfl)
    refine ⟨other, ?_⟩
    cases m with
    | deliver => exact other
    | _ => rfl
  | _ => exact ⟨rfl, rfl⟩

/-- So does every change of a stream: those that are no moves leave its loop where it is. -/
theorem Stream.Changes.windsDown (h : s.Changes c i st s') (down : c.isShuttingDown = true) :
    WindsDown (if st.isMoveOf i then 1 else 0) (if st.isSendOf i then 1 else 0) s.phase s'.phase := by
  cases h with
  | stays _ unmoved =>
    obtain ⟨noMove, noSend⟩ := Step.notOf unmoved
    rw [noMove, noSend]
    exact .refl _
  | @told w phase =>
    rw [phase]
    obtain ⟨parked, told⟩ := w
    cases parked with
    | true => exact ⟨Nat.le_refl 3, Nat.le_refl 0, nofun, nofun⟩
    | false => exact ⟨Nat.le_refl 6, Nat.le_refl 1, nofun, nofun⟩
  | fed phase =>
    rw [phase]
    exact ⟨Nat.le_refl 4, Nat.le_refl 0, nofun, nofun⟩
  | deaf | read | closed => exact .refl _
  | @moved m _ _ move =>
    have winds := move.windsDown down
    cases m <;> simpa [Step.isMoveOf, Step.isSendOf] using winds

/-- One step of a coordinator that shuts down, as any of its loops sees it. -/
theorem windsDown_next (h : c.next? st = some c') (down : c.isShuttingDown = true) (i : Nat) :
    WindsDown (if st.isMoveOf i then 1 else 0) (if st.isSendOf i then 1 else 0) (c.phaseOf i)
      (c'.phaseOf i) := by
  cases hs : c.streams[i]? with
  | some s =>
    obtain ⟨s', hs', change⟩ := stream_after h hs
    rw [phaseOf_eq hs, phaseOf_eq hs']
    exact change.windsDown down
  | none =>
    -- There is no loop, and after the step there is at most a stream that was just opened.
    have unmoved : ∀ m, st ≠ .loop i m := by
      rintro m rfl
      rw [next?, hs] at h
      cases h
    obtain ⟨noMove, noSend⟩ := Step.notOf unmoved
    have unopened : c.phaseOf i = .opened := by rw [phaseOf, hs]; rfl
    have stillUnopened : c'.phaseOf i = .opened := by
      cases hs' : c'.streams[i]? with
      | none => rw [phaseOf, hs']; rfl
      | some s' =>
        rcases stream_before h hs' with ⟨_, _, _, _, _, _, _, _, _, rfl⟩ | ⟨s, there, _⟩
        · rw [phaseOf_eq hs']
        · rw [hs] at there
          cases there
    rw [noMove, noSend, unopened, stillUnopened]
    exact .refl _

/-- From a shutdown on, every loop goes towards its end. -/
theorem windsDown_run {ss : List Step} (h : c.run? ss = some c') (down : c.isShuttingDown = true)
    (i : Nat) : WindsDown (ss.countP (·.isMoveOf i)) (ss.countP (·.isSendOf i)) (c.phaseOf i)
      (c'.phaseOf i) := by
  induction ss generalizing c with
  | nil =>
    cases h
    exact .refl _
  | cons st ss ih =>
    obtain ⟨d, hd, h⟩ := Option.bind_eq_some_iff.mp h
    rw [List.countP_cons, List.countP_cons]
    exact (windsDown_next hd down i).trans (ih h (shuttingDown_next hd down))

/-! ## Every loop can end -/

/-- A loop that has begun and not ended can move. -/
theorem exists_move (hs : c.streams[i]? = some s) (down : c.isShuttingDown = true)
    (unended : s.phase.isAtRest = false) : ∃ m, (c.next? (.loop i m)).isSome = true := by
  have moves : ∀ m : Move, c.next? (.loop i m) = m.apply c i s := fun m => by
    rw [next?, hs, Option.bind_some]
  cases phase : s.phase with
  | opened | ended => rw [phase] at unended; cases unended
  | checking =>
    refine ⟨.check, ?_⟩
    simp only [moves, Move.apply, check, phase]
    split <;> rfl
  | choosing => exact ⟨.wake, by simp [moves, Move.apply, wake, phase, down]⟩
  | holding t => exact ⟨.wake, by simp [moves, Move.apply, wake, phase, down]⟩
  | waiting w =>
    obtain ⟨parked, told⟩ := w
    cases parked with
    | true => exact ⟨.wake, by simp [moves, Move.apply, wake, phase, down]⟩
    | false =>
      refine ⟨.look, ?_⟩
      simp only [moves, Move.apply, look, phase]
      split <;> rfl
  | delivering t => exact ⟨.giveUp, by simp [moves, Move.apply, giveUp, phase, down]⟩
  | returning t => exact ⟨.putBack, by simp [moves, Move.apply, putBack, phase]⟩
  | returned => exact ⟨.explain, by simp [moves, Move.apply, explain, phase]⟩
  | leaving e => exact ⟨.leave, by simp [moves, Move.apply, leave, phase]⟩
  | announcing e => exact ⟨.announce, by simp [moves, Move.apply, announce, phase]⟩

/-- A loop that has begun does not go back to before its beginning. -/
theorem Moves.begun {m : Move} {d : Coordinator} (h : Moves c i s m s' d) : s'.phase ≠ .opened := by
  cases h with
  | leave =>
    simp only
    split
    · exact nofun
    · exact nofun
  | _ => exact nofun

/-- A loop that has begun ends with no more moves than it has left, if nothing else happens. -/
theorem exists_ending (hs : c.streams[i]? = some s) (down : c.isShuttingDown = true)
    (begun : s.phase ≠ .opened) :
    ∃ ms : List Move, ms.length ≤ s.phase.left ∧
      ∃ c' s' e, c.run? (ms.map (.loop i)) = some c' ∧ c'.streams[i]? = some s' ∧
        s'.phase = .ended e := by
  -- On the number of moves that are left.
  induction n : s.phase.left using Nat.strongRecOn generalizing c s with
  | ind n ih =>
    cases unended : s.phase.isAtRest with
    | true =>
      unfold isAtRest at unended
      split at unended
      · next opened => exact absurd opened begun
      · next e ended => exact ⟨[], Nat.zero_le _, c, s, e, rfl, hs, ended⟩
      · cases unended
    | false =>
      obtain ⟨m, moves⟩ := exists_move hs down unended
      obtain ⟨d, hd⟩ := Option.isSome_iff_exists.mp moves
      obtain ⟨r, hr, change⟩ := stream_after hd hs
      have fewer := (change.windsDown down).left
      rw [show (Step.loop i m).isMoveOf i = true from beq_self_eq_true i, if_pos rfl] at fewer
      have goesOn : r.phase ≠ .opened := by
        cases change with
        | stays _ unmoved => exact absurd rfl (unmoved m)
        | moved move => exact move.begun
      obtain ⟨ms, few, c', s', e, run, hs', ended⟩ :=
        ih r.phase.left (by omega) hr (shuttingDown_next hd down) goesOn rfl
      refine ⟨m :: ms, ?_, c', s', e, ?_, hs', ended⟩
      · rw [List.length_cons]
        omega
      · rw [List.map_cons, run?, List.foldlM_cons, hd]
        exact run

/-! ## Giving a stream up -/

/-- A loop has given its stream up because it had before, or because it has just done so. -/
theorem Stream.Changes.gaveUp (h : s.Changes c i st s') (gave : s'.phase.gaveUp = true) :
    s.phase.gaveUp = true ∨ st = .loop i .leave := by
  cases h with
  | stays | deaf | read | closed => exact .inl gave
  | told | fed => cases gave
  | moved move =>
    cases move with
    | leave => exact .inr rfl
    | notice phase => exact .inl (by rw [phase]; rfl)
    | silence phase => exact .inl (by rw [phase]; rfl)
    | _ => cases gave

/-- The stream of a record is a stream of its worker that its loop has not given up. -/
def Linked (c : Coordinator) : Prop :=
  ∀ id w j, c.registry.get? id = some w → w.stream = some j →
    ∃ s, c.streams[j]? = some s ∧ s.workerId = id ∧ s.phase.gaveUp = false

/-- After a loop has given its stream up, the record of its worker does not have the stream. -/
theorem stream_ne_of_leave (h : c.next? (.loop i .leave) = some c') (hs : c.streams[i]? = some s)
    {w : Record} (hw : c'.registry.get? s.workerId = some w) : w.stream ≠ some i := by
  cases happens_of_next h with
  | moved there move =>
    cases hs.symm.trans there
    cases move with
    | leave =>
      have off := c.registry.get?_detach_eq s.workerId i s.workerId
      rw [if_pos rfl] at off
      obtain ⟨v, -, same⟩ := Option.map_eq_some_iff.mp (off.symm.trans hw)
      subst same
      split
      · exact nofun
      · next other => exact other

/-- A move of a loop leaves the records alone that do not have its stream. -/
theorem record_of_move {m : Move} (h : c.next? (.loop i m) = some c') {id : String} {w : Record}
    (hw : c.registry.get? id = some w) (other : w.stream ≠ some i) :
    c'.registry.get? id = some w := by
  cases happens_of_next h with
  | @moved _ s _ _ _ there move =>
    cases move with
    | leave =>
      refine (c.registry.get?_detach_eq s.workerId i id).trans ?_
      rw [hw, Option.map_some, if_neg other, ite_self]
    | _ => exact hw

/-- A record has a stream because it had it before, or because the stream has just been opened. -/
theorem stream_of_record_next (h : c.next? st = some c') {id : String} {w' : Record} {j : Nat}
    (hw' : c'.registry.get? id = some w') (hj : w'.stream = some j) :
    (∃ w, c.registry.get? id = some w ∧ w.stream = some j) ∨
      (j = c.streams.length ∧ ∃ token room announces, st = .openStream id token room announces) := by
  have next := record_next h id
  generalize c.registry.get? id = w at next
  rw [hw'] at next
  cases next with
  | stays => exact .inl ⟨w', rfl, hj⟩
  | replaced => cases hj
  | heard _ w => exact .inl ⟨w, rfl, hj⟩
  | attached => exact .inr ⟨(Option.some.inj hj).symm, _, _, _, rfl⟩
  | detached => cases hj
  | backdated _ w => exact .inl ⟨w, rfl, hj⟩

/-- A step after which a record has another stream, or a loop has given its own up, keeps them linked. -/
theorem linked_next (hc : c.Linked) (h : c.next? st = some c') : c'.Linked := by
  intro id w' j hw' hj
  rcases stream_of_record_next h hw' hj with ⟨w, hw, had⟩ | ⟨rfl, token, room, announces, rfl⟩
  · obtain ⟨s, hs, own, kept⟩ := hc id w j hw had
    obtain ⟨s', hs', change⟩ := stream_after h hs
    refine ⟨s', hs', change.owner.1.trans own, Bool.eq_false_iff.mpr fun gave => ?_⟩
    rcases change.gaveUp gave with before | rfl
    · rw [before] at kept
      cases kept
    · subst own
      exact stream_ne_of_leave h hs hw' hj
  · cases happens_of_next h with
    | opened => exact ⟨_, List.getElem?_concat_length, rfl, rfl⟩
    | unopened =>
      obtain ⟨s, hs, -⟩ := hc id w' _ hw' hj
      exact absurd (List.getElem?_eq_some_iff.mp hs).1 (Nat.lt_irrefl _)

/-- In every run the stream of a record is one that its loop has not given up. -/
theorem linked_run {settings : Settings.Coordinator} {now : Instant} {ss : List Step}
    (h : (start settings now).run? ss = some c) : c.Linked :=
  run?_always linked_next h fun _ _ _ hw => by cases hw

/-! ## What is left when all loops have ended -/

/-- A loop that is not there, or has ended, holds nothing. -/
theorem unsent_of_isAtRest {l : Ledger} (ha : l.Accounts c)
    (rest : ∀ (i : Nat) (s : Stream), c.streams[i]? = some s → s.phase.isAtRest = true) :
    l.holdings.unsent = l.holdings.queue := by
  have empty : l.holdings.lanes.flatMap (fun k => k.hand.toList) = [] := by
    rw [List.flatMap_eq_nil_iff]
    intro k hk
    have shown : k.map Prod.fst ∈ c.streams.map Stream.lane := by
      have lanes : l.holdings.lanes.map (Lane.map Prod.fst) = c.streams.map Stream.lane :=
        congrArg Holdings.lanes ha.shows
      rw [← lanes]
      exact List.mem_map_of_mem hk
    obtain ⟨s, hs, same⟩ := List.mem_map.mp shown
    obtain ⟨i, hi⟩ := List.getElem?_of_mem hs
    have none : k.hand.map Prod.fst = Option.none :=
      (congrArg Lane.hand same).symm.trans (hand_of_isAtRest (rest i s hi))
    rw [Option.map_eq_none_iff.mp none, Option.toList_none]
  rw [Holdings.unsent, Holdings.view, empty, List.append_nil]

/-- What has come of a coordinator that began to shut down in a state, of which a ledger was kept, and
took some steps since. -/
structure Drained (atShutdown : Coordinator) (l : Ledger) (since : List Step) (c : Coordinator) :
    Prop where
  /-- No loop has sent more than one task. -/
  sends : ∀ i, since.countP (·.isSendOf i) ≤ 1
  /-- A loop that has not ended can move. -/
  goesOn : ∀ (i : Nat) (s : Stream), c.streams[i]? = some s → s.phase.isAtRest = false →
    ∃ m, (c.next? (.loop i m)).isSome = true
  /-- A loop that has begun needs no more than six moves to end, those included that it has made. -/
  ends : ∀ (i : Nat) (s : Stream), c.streams[i]? = some s → s.phase ≠ .opened →
    ∃ ms : List Move, since.countP (·.isMoveOf i) + ms.length ≤ 6 ∧
      ∃ c' s' e, c.run? (ms.map (.loop i)) = some c' ∧ c'.streams[i]? = some s' ∧
        s'.phase = .ended e
  /-- A loop that has ended, and was not about to before the shutdown, says that it was the shutdown. -/
  reason : ∀ i e, (atShutdown.phaseOf i).ending? = none → c.phaseOf i = .ended e →
    e.toFailure = .notConnected "coordinator is shutting down"
  /-- No record has the stream of a loop that has ended. -/
  detached : ∀ i e, c.phaseOf i = .ended e → ∀ id w, c.registry.get? id = some w → w.stream ≠ some i
  /-- A loop takes no stream but its own off a record. -/
  own : ∀ i m c', c.next? (.loop i m) = some c' → ∀ id w, c.registry.get? id = some w →
    w.stream ≠ some i → c'.registry.get? id = some w
  /-- The ledger shows what was queued and held at the shutdown. -/
  shown : l.holdings.map Prod.fst = atShutdown.holdings
  /-- Only somebody who has no stream takes what is not sent. -/
  untaken : (∀ p, Step.take p ∉ since) → Ledger.taken atShutdown.beginShutdown l since = []
  /-- When all loops have ended, what was queued or held at the shutdown or came in since is in the
  queue, but for what was sent since and what was taken by somebody who has no stream. -/
  queue : (∀ (i : Nat) (s : Stream), c.streams[i]? = some s → s.phase.isAtRest = true) →
    let c₀ := atShutdown.beginShutdown
    let l' := Ledger.follow c₀ l since
    l'.holdings.queue.map Prod.fst = c.queue.tasks ∧
      (l'.holdings.queue ++ Ledger.sent c₀ l since ++ Ledger.taken c₀ l since).Perm
        (l.holdings.unsent ++ Ledger.entered c₀ l since)

/-- Whatever a coordinator has done before it began to shut down, and whatever happens after: every loop
sends at most one more task and ends for the reason of the shutdown, giving its own stream up, and no task
is lost or doubled. -/
theorem drains_after_shutdown {settings : Settings.Coordinator} {now : Instant}
    {before since : List Step} {atShutdown : Coordinator}
    (h : (start settings now).run? before = some atShutdown)
    (h' : atShutdown.beginShutdown.run? since = some c) :
    Drained atShutdown (Ledger.ofRun (start settings now) before) since c := by
  have account := Ledger.accounts_ofRun h
  have accountDown : (Ledger.ofRun (start settings now) before).Accounts atShutdown.beginShutdown :=
    ⟨account.shows, account.once, account.away⟩
  -- `winds` bounds what each loop still does, `Linked` whose streams the records have, and the
  -- account says where the tasks are.
  have winds := windsDown_run h' rfl
  have down : c.isShuttingDown = true :=
    run?_always (fun down next => shuttingDown_next next down) h' rfl
  have linkedThen : atShutdown.beginShutdown.Linked := linked_run (c := atShutdown) h
  have linked : c.Linked := run?_always linked_next h' linkedThen
  refine ⟨fun i => ?_, fun i s hs => exists_move hs down, fun i s hs begun => ?_,
    fun i e calm ended => ?_, fun i e ended id w hw had => ?_,
    fun i m c' next id w => record_of_move next, account.shows, fun hss => Ledger.taken_eq_nil hss,
    fun rest => ?_⟩
  · have once := (winds i).sends
    have most := (atShutdown.beginShutdown.phaseOf i).sends_le
    omega
  · obtain ⟨ms, few, ends⟩ := exists_ending hs down begun
    refine ⟨ms, ?_, ends⟩
    have left := (winds i).left
    have most := (atShutdown.beginShutdown.phaseOf i).left_le
    rw [phaseOf_eq hs] at left
    omega
  · rw [(winds i).reason e calm (by rw [ended]; rfl)]
    rfl
  -- A loop that has ended has given its stream up, which a record that still had it would deny.
  · obtain ⟨s, hs, -, kept⟩ := linked id w i hw had
    rw [← phaseOf_eq hs, ended] at kept
    cases kept
  · have after := Ledger.accounts_follow accountDown h'
    refine ⟨congrArg Holdings.queue after.shows, ?_⟩
    have unsent := Ledger.unsent_follow accountDown h'
    rw [unsent_of_isAtRest after rest] at unsent
    exact unsent.symm

/-- What is queued in the run below. -/
def chore (id : String) : Task := .plain id .cleanup [] .epoch

/-- Four loops: the first holds for a worker that fell silent, the second waits for a task, the third has
one in its hand for which there is no room, and the fourth is about to take one. -/
def busy : List Step :=
  [.register ⟨"silent", "worker", .empty, "1", .empty⟩, .openStream "silent" (Fresh.token 0) 1 false,
    .feed 0, .pass (.ofSeconds 120), .loop 0 .check,
    .register ⟨"idle", "worker", .empty, "1", .empty⟩, .openStream "idle" (Fresh.token 1) 1 false,
    .feed 1, .loop 1 .check, .loop 1 .wake, .loop 1 .look,
    .queueTask (chore "a"), .queueTask (chore "b"), .queueTask (chore "c"),
    .register ⟨"full", "worker", .empty, "1", .empty⟩, .openStream "full" (Fresh.token 2) 1 true,
    .feed 2, .loop 2 .check, .loop 2 .wake, .loop 2 .look, .loop 2 .deliver,
    .loop 2 .check, .loop 2 .wake, .loop 2 .look,
    .register ⟨"late", "worker", .empty, "1", .empty⟩, .openStream "late" (Fresh.token 3) 1 false,
    .feed 3, .loop 3 .check, .loop 3 .wake]

/-- The fourth loop sends what it takes, another task comes in, and all loops end. -/
def rundown : List Step :=
  [.loop 3 .look, .loop 0 .wake, .loop 2 .giveUp, .loop 3 .deliver, .loop 0 .leave,
    .queueTask (chore "d"), .loop 2 .putBack, .loop 2 .explain, .loop 3 .check, .loop 3 .wake,
    .loop 3 .leave, .loop 1 .wake, .loop 2 .leave, .loop 1 .leave, .loop 2 .announce]

theorem drains_after_shutdown_busy :
    ∃ c c', (start .default .epoch).run? busy = some c ∧ c.beginShutdown.run? rundown = some c' ∧
      Drained c (Ledger.ofRun (start .default .epoch) busy) rundown c' ∧
      (c'.streams.all fun s => s.phase.isAtRest) = true ∧
      c'.queue.tasks.map (·.id) = ["b", "d"] := by
  have ends : ((start .default .epoch).run? busy).any (fun c =>
      (c.beginShutdown.run? rundown).any fun c' => (c'.streams.all fun s => s.phase.isAtRest) &&
        decide (c'.queue.tasks.map (·.id) = ["b", "d"])) = true := by decide +kernel
  simp only [Option.any_eq_true, Bool.and_eq_true, decide_eq_true_eq] at ends
  obtain ⟨c, hc, c', hc', rest, left⟩ := ends
  exact ⟨c, c', hc, hc', drains_after_shutdown hc hc', rest, left⟩

end WorkDispatch.Coordinator
