import WorkDispatch.Coordinator.Dispatch

/-!
# Where tasks are, and how they move

Of all that a coordinator holds, only three things hold tasks: the queue, the hands of the loops and
the buffers of the streams. `Coordinator.holdings` is that part of the state, and `Movement` what a
step can do to it. `next?_holdings` says that every step of the coordinator is one movement of its
holdings: whoever asks what becomes of tasks need not look into the steps again.

Holdings are of any kind of thing that stands for a task. `Holdings.move_map` says that a movement
asks for nothing but the tasks themselves, so tasks can be given numbers and followed through a run.
-/

set_option autoImplicit false

namespace WorkDispatch.Coordinator

/-- The task that a delivery brings. -/
def Delivery.task? : Delivery → Option Task
  | .task t => some t
  | .status _ => none

/-- What a stream holds: the hand of its loop and its buffer. -/
structure Lane (α : Type) where
  hand : Option α
  buffer : List α
  deriving DecidableEq

/-- What a coordinator holds, the first task to leave a queue or a buffer first. -/
structure Holdings (α : Type) where
  queue : List α
  lanes : List (Lane α)

/-- The tasks that a stream holds. -/
def Stream.lane (s : Stream) : Lane Task := ⟨s.hand, s.buffer.filterMap Delivery.task?⟩

/-- The tasks that a coordinator holds. -/
def holdings (c : Coordinator) : Holdings Task := ⟨c.queue.tasks, c.streams.map Stream.lane⟩

/-! ## Movements -/

/-- What a step does with tasks. -/
inductive Movement (α : Type)
  | idle
  /-- A stream opens. -/
  | widen
  | enter (a : α)
  /-- The first task that suits leaves with somebody who has no stream. -/
  | take (suits : Task → Bool)
  /-- The first task that suits of those that were not passed over, if there is one, goes into the hand
  of a loop. -/
  | pick (stream passed : Nat) (suits : Task → Bool)
  /-- The task in a hand goes into the buffer. -/
  | deliver (stream : Nat)
  /-- The task in a hand goes to the front of the queue. -/
  | putBack (stream : Nat)
  /-- The first task in a buffer is read. -/
  | read (stream : Nat)
  /-- All tasks in a buffer are lost. -/
  | lose (stream : Nat)

variable {α β : Type}

namespace Lane

def map (f : α → β) (l : Lane α) : Lane β := ⟨l.hand.map f, l.buffer.map f⟩

/-- All that a lane holds. -/
def all (l : Lane α) : List α := l.hand.toList ++ l.buffer

def deliver (a : α) (l : Lane α) : Lane α := ⟨none, l.buffer ++ [a]⟩

end Lane

namespace Movement

def map (f : α → β) : Movement α → Movement β
  | idle => idle
  | widen => widen
  | enter a => enter (f a)
  | take p => take p
  | pick i n p => pick i n p
  | deliver i => deliver i
  | putBack i => putBack i
  | read i => read i
  | lose i => lose i

end Movement

namespace Holdings

def map (f : α → β) (h : Holdings α) : Holdings β := ⟨h.queue.map f, h.lanes.map (Lane.map f)⟩

/-- The hand of a loop. -/
def hand? (h : Holdings α) (i : Nat) : Option α := h.lanes[i]?.bind Lane.hand

/-- The holdings with the lane of a number changed. -/
def modify (h : Holdings α) (i : Nat) (f : Lane α → Lane α) : Holdings α :=
  { h with lanes := h.lanes.modify i f }

/-- The holdings after a movement. A loop takes nothing into a hand that is full, and gives nothing
out of an empty one. -/
def move (task : α → Task) (h : Holdings α) : Movement α → Option (Holdings α)
  | .idle => some h
  | .widen => some { h with lanes := h.lanes ++ [⟨none, []⟩] }
  | .enter a => some { h with queue := h.queue ++ [a] }
  | .take p => some { h with queue := h.queue.eraseP (p ∘ task) }
  | .pick i n p =>
    match (h.queue.drop n).find? (p ∘ task) with
    | none => some h
    | some a =>
      match h.lanes[i]? with
      | some ⟨none, _⟩ => some ({ h with queue := Queue.eraseAfter n (p ∘ task) h.queue }.modify i
          fun l => { l with hand := some a })
      | _ => none
  | .deliver i => (h.hand? i).map fun a => h.modify i (Lane.deliver a)
  | .putBack i => (h.hand? i).map fun a =>
      { h with queue := a :: h.queue }.modify i fun l => { l with hand := none }
  | .read i => some (h.modify i fun l => { l with buffer := l.buffer.tail })
  | .lose i => some (h.modify i fun l => { l with buffer := [] })

/-! ## Movements and numbering -/

/-- A lane changed and then renamed is the lane renamed and then changed. -/
theorem map_modify {f : α → β} (h : Holdings α) (i : Nat) (g : Lane α → Lane α)
    (g' : Lane β → Lane β) (hg : ∀ l, (g l).map f = g' (l.map f)) :
    (h.modify i g).map f = (h.map f).modify i g' := by
  have hl : (h.lanes.modify i g).map (Lane.map f) = (h.lanes.map (Lane.map f)).modify i g' := by
    apply List.ext_getElem?
    intro j
    simp only [List.getElem?_map, List.getElem?_modify]
    cases h.lanes[j]? with
    | none => rfl
    | some l =>
      by_cases hij : i = j
      · simp only [hij, if_true, Option.map_some, Option.map_eq_map, hg]
      · simp only [hij, if_false, Option.map_some, Option.map_eq_map]
  simp only [map, modify, hl]

theorem hand?_map (f : α → β) (h : Holdings α) (i : Nat) :
    (h.map f).hand? i = (h.hand? i).map f := by
  simp only [hand?, map, List.getElem?_map]
  cases h.lanes[i]? <;> rfl

/-- A movement looks at tasks only: of things that stand for the same tasks the same things move. -/
theorem move_map (f : α → β) (task : α → Task) (task' : β → Task) (hf : ∀ a, task' (f a) = task a)
    (h : Holdings α) (m : Movement α) :
    (h.map f).move task' (m.map f) = (h.move task m).map (Holdings.map f) := by
  have hq : ∀ p : Task → Bool, (p ∘ task') ∘ f = p ∘ task := fun p => funext fun a =>
    congrArg p (hf a)
  cases m with
  | idle => rfl
  | widen => simp only [move, Movement.map, map, List.map_append, Option.map_some]; rfl
  | enter a => simp only [move, Movement.map, map, List.map_append, Option.map_some]; rfl
  | take p =>
    simp only [move, Movement.map, map, List.eraseP_map, hq, Option.map_some]
  | pick i n p =>
    simp only [move, Movement.map, map, ← List.map_drop, List.find?_map, hq, List.getElem?_map]
    cases (h.queue.drop n).find? (p ∘ task) with
    | none => rfl
    | some a =>
      cases h.lanes[i]? with
      | none => rfl
      | some l =>
        -- A hand that is full takes nothing, in either.
        obtain ⟨_ | b, bs⟩ := l
        · simp only [Option.map_some, Lane.map, Option.map_none, Queue.eraseAfter_map, hq]
          rw [map_modify _ i _ (fun l => { l with hand := some (f a) }) fun _ => rfl]
          rfl
        · rfl
  | deliver i =>
    simp only [move, Movement.map, hand?_map]
    cases h.hand? i with
    | none => rfl
    | some a =>
      have hl : ∀ l : Lane α, (l.deliver a).map f = (l.map f).deliver (f a) := fun l => by
        simp only [Lane.map, Lane.deliver, List.map_append, Option.map_none]; rfl
      exact congrArg some (map_modify h i _ _ hl).symm
  | putBack i =>
    simp only [move, Movement.map, hand?_map]
    cases h.hand? i with
    | none => rfl
    | some a =>
      simp only [Option.map_some]
      rw [map_modify _ i _ (fun l => { l with hand := none }) fun _ => rfl]
      rfl
  | read i =>
    refine congrArg some (map_modify h i _ (fun l => { l with buffer := l.buffer.tail }) ?_).symm
    exact fun l => by simp only [Lane.map, List.map_tail]
  | lose i =>
    exact congrArg some (map_modify h i _ (fun l => { l with buffer := [] }) fun _ => rfl).symm

end Holdings

/-! ## The movement of a step -/

/-- What a step does with tasks, when it can be taken. -/
def movement (c : Coordinator) : Step → Movement Task
  | .queueTask t =>
    match c.queueTask t with
    | .ok _ => .enter t
    | .error _ => .idle
  | .openStream id token room announces =>
    match c.openStream id token room announces with
    | .ok _ => .widen
    | .error _ => .idle
  | .take p => .take p
  | .receive i =>
    match (c.receive i).1 with
    | .delivery (.task _) => .read i
    | _ => .idle
  | .closeStream i => .lose i
  | .loop i .look =>
    match c.streams[i]? with
    | some s => .pick i (c.passedOver i) (c.suits s)
    | none => .idle
  | .loop i .deliver => .deliver i
  | .loop i .putBack => .putBack i
  | _ => .idle

/-- The steps that a movement may come of. -/
def Movement.IsOf (c : Coordinator) (st : Step) : Movement Task → Prop
  | .idle => True
  | .widen => ∃ id token room announces, st = .openStream id token room announces
  | .enter t => st = .queueTask t
  | .take p => st = .take p
  | .pick i n p => st = .loop i .look ∧ n = c.passedOver i ∧
      ∃ s, c.streams[i]? = some s ∧ p = c.suits s
  | .deliver i => st = .loop i .deliver
  | .putBack i => st = .loop i .putBack
  | .read i => st = .receive i
  | .lose i => st = .closeStream i

/-- Every movement tells which step it comes of. -/
theorem movement_isOf (c : Coordinator) (st : Step) : (c.movement st).IsOf c st := by
  unfold movement
  split
  · split
    · rfl
    · trivial
  · split
    · exact ⟨_, _, _, _, rfl⟩
    · trivial
  · rfl
  · split
    · rfl
    · trivial
  · rfl
  · split
    · next s hs => exact ⟨rfl, rfl, s, hs, rfl⟩
    · trivial
  · rfl
  · rfl
  · trivial

/-- The task in the hand of a loop that is in a phase. -/
def Stream.Phase.hand : Stream.Phase → Option Task
  | .delivering t | .returning t => some t
  | _ => none

@[simp] theorem Stream.phase_hand (s : Stream) : s.phase.hand = s.hand := rfl

/-- What a change does to other lanes does not matter. -/
theorem Holdings.modify_congr {h : Holdings α} {i : Nat} {f g : Lane α → Lane α}
    (hf : ∀ l, h.lanes[i]? = some l → f l = g l) : h.modify i f = h.modify i g := by
  have hl : h.lanes.modify i f = h.lanes.modify i g := by
    apply List.ext_getElem?
    intro j
    simp only [List.getElem?_modify]
    cases hj : h.lanes[j]? with
    | none => rfl
    | some l =>
      by_cases hij : i = j
      · subst hij
        simp only [if_true, Option.map_eq_map, Option.map_some, hf l hj]
      · simp only [hij, if_false]
  simp only [modify, hl]

/-- Modifying a lane in a way that changes nothing of it changes nothing at all. -/
theorem Holdings.modify_eq_self {h : Holdings α} {i : Nat} {f : Lane α → Lane α}
    (hf : ∀ l, h.lanes[i]? = some l → f l = l) : h.modify i f = h := by
  have hi : h.modify i id = h := by simp only [modify, List.modify_id]
  rw [modify_congr (g := id) hf, hi]

/-- The lane of a stream is at the place of the stream. -/
theorem lane_of_stream {c : Coordinator} {i : Nat} {s : Stream} (hs : c.streams[i]? = some s) :
    c.holdings.lanes[i]? = some s.lane := by
  simp only [holdings, List.getElem?_map, hs, Option.map_some]

/-- What a loop has in hand is what its phase says. -/
theorem hand?_of_stream {c : Coordinator} {i : Nat} {s : Stream} (hs : c.streams[i]? = some s) :
    c.holdings.hand? i = s.hand := by
  simp only [Holdings.hand?, lane_of_stream hs, Option.bind_some, Stream.lane]

/-- What a change of one stream does to the holdings, when it does the same to every stream. -/
theorem holdings_modify (c : Coordinator) (i : Nat) (f : Stream → Stream)
    (g : Lane Task → Lane Task) (hg : ∀ s, (f s).lane = g s.lane) :
    (c.modify i f).holdings = c.holdings.modify i g := by
  have hl : (c.streams.modify i f).map Stream.lane = (c.streams.map Stream.lane).modify i g := by
    apply List.ext_getElem?
    intro j
    simp only [List.getElem?_map, List.getElem?_modify]
    cases c.streams[j]? with
    | none => rfl
    | some s =>
      by_cases hij : i = j
      · simp only [hij, if_true, Option.map_some, Option.map_eq_map, hg]
      · simp only [hij, if_false, Option.map_some, Option.map_eq_map]
  simp only [holdings, Coordinator.modify, Holdings.modify, hl]

/-- A loop that goes to another phase has in hand what that phase says. -/
theorem holdings_move (c : Coordinator) (i : Nat) (p : Stream.Phase) :
    (c.move i p).holdings = c.holdings.modify i fun l => { l with hand := p.hand } :=
  holdings_modify c i _ _ fun _ => rfl

/-- A loop that goes on with the same hand moves nothing. -/
theorem holdings_move_of_hand_eq {c : Coordinator} {i : Nat} {s : Stream} {p : Stream.Phase}
    (hs : c.streams[i]? = some s) (hp : p.hand = s.phase.hand) :
    (c.move i p).holdings = c.holdings := by
  rw [holdings_move, hp]
  refine Holdings.modify_eq_self fun l hl => ?_
  rw [lane_of_stream hs, Option.some.injEq] at hl
  rw [← hl]
  rfl

/-! ## Steps of a loop -/

section Loop

variable {c c' : Coordinator} {i : Nat} {s : Stream} (hs : c.streams[i]? = some s)

include hs

/-- Until it has looked, a loop moves no task. -/
theorem check_holdings (h : c.check i s = some c') : c'.holdings = c.holdings := by
  unfold check at h
  split at h
  · next hp =>
    have hh : s.phase.hand = none := by rw [hp]; rfl
    split at h <;> cases h <;> exact holdings_move_of_hand_eq hs hh.symm
  · cases h

theorem wake_holdings (h : c.wake i s = some c') : c'.holdings = c.holdings := by
  unfold wake at h
  obtain ⟨p, hp, h⟩ := Option.bind_eq_some_iff.mp h
  -- A loop that waits holds nothing, and neither does it after it has been woken.
  have hh : s.phase.hand = none ∧ p.hand = none := by
    split at hp
    · next ph => cases hp; exact ⟨by rw [ph]; rfl, rfl⟩
    · next ph => cases hp; rw [ph]; exact ⟨rfl, by split <;> rfl⟩
    · next ph => cases hp; rw [ph]; exact ⟨rfl, by split <;> rfl⟩
    · cases hp
  split at h
  · cases h; exact holdings_move_of_hand_eq hs hh.1.symm
  · split at h
    · cases h; exact holdings_move_of_hand_eq hs hh.1.symm
    · split at h
      · cases h
      · cases h; exact holdings_move_of_hand_eq hs (hh.2.trans hh.1.symm)

/-- A look picks the first suitable task behind those that it passed over. -/
theorem look_holdings (h : c.look i s = some c') :
    c.holdings.move id (.pick i (c.passedOver i) (c.suits s)) = some c'.holdings := by
  unfold look at h
  split at h
  · next hp =>
    have hh : s.hand = none := by rw [← Stream.phase_hand, hp]; rfl
    have hl : c.holdings.lanes[i]? = some ⟨none, s.lane.buffer⟩ := by
      rw [lane_of_stream hs, ← hh]; rfl
    have hq : c.holdings.queue = c.queue.tasks := rfl
    simp only [Holdings.move, Function.comp_id, hq, hl]
    simp only [Queue.takeAfter] at h
    cases hf : (c.queue.tasks.drop (c.passedOver i)).find? (c.suits s) with
    | none =>
      rw [hf] at h
      cases h
      exact congrArg some
        (holdings_move_of_hand_eq (c := { c with scan := none }) hs (by rw [hp]; rfl)).symm
    | some t =>
      rw [hf] at h
      cases h
      rw [holdings_move]
      rfl
  · cases h

/-- A delivery moves the task in hand to the buffer of the stream. -/
theorem deliver_holdings (h : c.deliver i s = some c') :
    c.holdings.move id (.deliver i) = some c'.holdings := by
  unfold deliver at h
  split at h
  · next t hp =>
    have hh : c.holdings.hand? i = some t := by
      rw [hand?_of_stream hs, ← Stream.phase_hand, hp]; rfl
    split at h
    · cases h
      simp only [Holdings.move, hh, Option.map_some]
      refine congrArg some (holdings_modify c i _ _ fun s => ?_).symm
      simp only [Stream.lane, Stream.put, List.filterMap_append, Lane.deliver]
      rfl
    · cases h
  · cases h

/-- A loop that gives up keeps what it has in hand. -/
theorem giveUp_holdings (h : c.giveUp i s = some c') : c'.holdings = c.holdings := by
  unfold giveUp at h
  split at h
  · next hp =>
    split at h
    · cases h; exact holdings_move_of_hand_eq hs (by rw [hp]; rfl)
    · cases h
  · cases h

/-- Putting back moves the task in hand to the head of the queue. -/
theorem putBack_holdings (h : c.putBack i s = some c') :
    c.holdings.move id (.putBack i) = some c'.holdings := by
  unfold putBack at h
  split at h
  · next t hp =>
    cases h
    have hh : c.holdings.hand? i = some t := by
      rw [hand?_of_stream hs, ← Stream.phase_hand, hp]; rfl
    rw [holdings_move]
    simp only [Holdings.move, hh, Option.map_some]
    rfl
  · cases h

theorem explain_holdings (h : c.explain i s = some c') : c'.holdings = c.holdings := by
  unfold explain at h
  split at h
  · next hp => cases h; exact holdings_move_of_hand_eq hs (by rw [hp]; rfl)
  · cases h

theorem leave_holdings (h : c.leave i s = some c') : c'.holdings = c.holdings := by
  unfold leave at h
  split at h
  · next hp =>
    cases h
    refine holdings_move_of_hand_eq (c := { c with registry := _ }) hs ?_
    rw [hp]
    split <;> rfl
  · cases h

theorem announce_holdings (h : c.announce i s = some c') : c'.holdings = c.holdings := by
  unfold announce at h
  split at h
  · next e hp =>
    cases h
    -- A notice in the buffer is no task, and a loop that gives it has none in its hand.
    rw [holdings_modify c i _ (fun l => { l with hand := none }) fun s => ?_]
    · refine Holdings.modify_eq_self fun l hl => ?_
      rw [lane_of_stream hs, Option.some.injEq] at hl
      have hh : s.hand = none := by rw [← Stream.phase_hand, hp]; rfl
      rw [← hl, Stream.lane, hh]
    · split
      · simp only [Stream.lane, Stream.put, List.filterMap_append, List.filterMap_cons,
          Delivery.task?, List.filterMap_nil, List.append_nil]
        rfl
      · rfl
  · cases h

end Loop

/-- Every move of a loop is one movement. -/
theorem apply_holdings {c c' : Coordinator} {i : Nat} {s : Stream} {m : Move}
    (hs : c.streams[i]? = some s) (h : m.apply c i s = some c') :
    c.holdings.move id (c.movement (.loop i m)) = some c'.holdings := by
  cases m with
  | check => exact congrArg some (check_holdings hs h).symm
  | wake => exact congrArg some (wake_holdings hs h).symm
  | look =>
    simp only [movement, hs]
    exact look_holdings hs h
  | deliver => exact deliver_holdings hs h
  | giveUp => exact congrArg some (giveUp_holdings hs h).symm
  | putBack => exact putBack_holdings hs h
  | explain => exact congrArg some (explain_holdings hs h).symm
  | leave => exact congrArg some (leave_holdings hs h).symm
  | announce => exact congrArg some (announce_holdings hs h).symm

/-! ## Steps of everybody else -/

/-- A task that is admitted comes last in the queue. -/
theorem queueTask_holdings {c c' : Coordinator} {t : Task} (h : c.queueTask t = .ok c') :
    c'.holdings = { c.holdings with queue := c.holdings.queue ++ [t] } := by
  unfold queueTask Queue.enqueue at h
  split at h
  · cases h
  · split at h
    · next he =>
      split at he
      · cases he
      · cases he; cases h; rfl
    · cases h

/-- A stream that is opened adds an empty lane. -/
theorem openStream_holdings {c : Coordinator} {id token : String} {room : Nat} {announces : Bool}
    {r : (Nat × CapabilitySet) × Coordinator} (h : c.openStream id token room announces = .ok r) :
    r.2.holdings = { c.holdings with lanes := c.holdings.lanes ++ [⟨none, []⟩] } := by
  unfold openStream at h
  simp only at h
  split at h
  · cases h
  · cases h
    simp only [holdings, List.map_append]
    rfl

theorem tellLoops_holdings (c : Coordinator) : c.tellLoops.holdings = c.holdings := by
  have hl : ∀ s : Stream, s.tell.lane = s.lane := fun s => by
    unfold Stream.tell
    split
    · next hp => simp only [Stream.lane, Stream.hand, hp]
    · rfl
  simp only [holdings, tellLoops, List.map_map, Function.comp_def, hl]

theorem feed_holdings (c : Coordinator) (i : Nat) : (c.feed i).holdings = c.holdings := by
  unfold feed
  rw [holdings_modify c i _ id fun s => ?_]
  · exact Holdings.modify_eq_self fun _ _ => rfl
  · split
    · next hp => simp only [Stream.lane, Stream.hand, hp, id_eq]
    · rfl

/-- What a worker has not read is lost when it goes away. -/
theorem closeStream_holdings (c : Coordinator) (i : Nat) :
    c.holdings.move id (.lose i) = some (c.closeStream i).holdings := by
  unfold closeStream
  rw [holdings_modify c i _ (fun l => { l with buffer := [] }) fun _ => rfl]
  rfl

/-- A worker reads the first task of its buffer, or what it reads is no task. -/
theorem receive_holdings (c : Coordinator) (i : Nat) :
    c.holdings.move id (c.movement (.receive i)) = some (c.receive i).2.holdings := by
  cases hs : c.streams[i]? with
  | none => simp only [movement, receive, hs, Holdings.move]
  | some s =>
    -- A stream is more than its lane: without a task read, the lane is what it was.
    have same : ∀ s' : Stream, s'.lane = s.lane →
        (c.modify i fun _ => s').holdings = c.holdings := fun s' h => by
      rw [holdings_modify c i _ (fun _ => s'.lane) fun _ => rfl]
      refine Holdings.modify_eq_self fun l hl => ?_
      rw [lane_of_stream hs, Option.some.injEq] at hl
      exact h.trans hl
    cases ho : s.isOpen with
    | false =>
      simp only [movement, receive, hs, Stream.receive, ho, Bool.false_eq_true, if_false]
      exact congrArg some (same s rfl).symm
    | true =>
      cases hb : s.buffer with
      | nil =>
        simp only [movement, receive, hs, Stream.receive, ho, if_true, hb]
        split
        · next h => split at h <;> cases h
        · exact congrArg some (same s rfl).symm
      | cons d ds =>
        simp only [movement, receive, hs, Stream.receive, ho, if_true, hb]
        cases d with
        | status e =>
          -- The telling of an end is no task, and the lane does not show it.
          refine congrArg some (same { s with buffer := ds, isOpen := true } ?_).symm
          simp only [Stream.lane, hb, List.filterMap_cons, Delivery.task?]
          rfl
        | task t =>
          have hl : ({ s with buffer := ds, isOpen := true } : Stream).lane =
              { s.lane with buffer := s.lane.buffer.tail } := by
            simp only [Stream.lane, hb, List.filterMap_cons, Delivery.task?, List.tail_cons]
            rfl
          rw [holdings_modify c i _ (fun _ => { s.lane with buffer := s.lane.buffer.tail })
            fun _ => hl]
          refine congrArg some (Holdings.modify_congr fun l h => ?_)
          rw [lane_of_stream hs, Option.some.injEq] at h
          rw [h]

/-- Every step of the coordinator is one movement of its holdings. -/
theorem next?_holdings {c c' : Coordinator} {s : Step} (h : c.next? s = some c') :
    c.holdings.move id (c.movement s) = some c'.holdings := by
  cases s with
  | register g =>
    cases h
    unfold register
    simp only
    split <;> rfl
  | beginHeartbeat id => cases h; rfl
  | endHeartbeat place token status stats =>
    cases h
    unfold endHeartbeat
    split
    · rfl
    · simp only
      split <;> rfl
  | openStream id token room announces =>
    cases h
    simp only [movement]
    cases ho : c.openStream id token room announces with
    | error e => rfl
    | ok r => exact congrArg some (openStream_holdings ho).symm
  | feed i => cases h; exact congrArg some (feed_holdings c i).symm
  | receive i => cases h; exact receive_holdings c i
  | closeStream i => cases h; exact closeStream_holdings c i
  | detach id stream => cases h; rfl
  | queueTask t =>
    cases h
    simp only [movement]
    cases hq : c.queueTask t with
    | error e => rfl
    | ok c' => exact congrArg some (queueTask_holdings hq).symm
  | take p => cases h; rfl
  | report r =>
    cases h
    unfold report
    split
    · rfl
    · split <;> rfl
  | prune => cases h; rfl
  | tell =>
    simp only [next?, tell] at h
    split at h
    · cases h
    · cases h; exact congrArg some (tellLoops_holdings c).symm
  | loop i m =>
    obtain ⟨s, hs, h⟩ := Option.bind_eq_some_iff.mp h
    exact apply_holdings hs h
  | passOver i =>
    obtain ⟨s, -, h⟩ := Option.bind_eq_some_iff.mp h
    unfold passOver at h
    split at h
    · split at h
      · cases h
      · cases h; rfl
    · cases h
  | beginShutdown => cases h; rfl
  | backdate id age =>
    obtain ⟨r, _, rfl⟩ := Option.map_eq_some_iff.mp h
    rfl
  | pass time => cases h; rfl

end WorkDispatch.Coordinator
