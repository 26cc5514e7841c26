import Mathlib.Data.List.Nodup
import WorkDispatch.Proofs.Coordinator.Ledger
import WorkDispatch.Proofs.Coordinator.Moves

/-!
# What becomes of tasks that no worker has read

The channel of a stream takes a task before the worker reads it, and when the worker goes away what its
channel holds goes with it. `abandons` names this step. It is the only way in which an admitted task is
lost: `unread_tasks_kept_iff` says that after a run every task that was not read is still queued, held
by a loop or in a channel that is read, if and only if no worker went away from a task in its channel.

That some workers do is not excluded anywhere: `buffered_task_lost` is a run in which a task is gone
that no worker was given.
-/

set_option autoImplicit false

namespace WorkDispatch.Coordinator

/-- A worker goes away from a stream with a task in its channel. -/
def abandons (c : Coordinator) : Step → Bool
  | .closeStream i => c.streams[i]?.any fun s => !s.lane.buffer.isEmpty
  | _ => false

/-! ## Channels of workers that have gone away -/

/-- Nothing is in the channel of a worker that has gone away. -/
def ClosedEmpty (c : Coordinator) : Prop :=
  ∀ (i : Nat) (s : Stream), c.streams[i]? = some s → s.isOpen = false → s.buffer = []

/-- A step puts nothing into a channel that nobody reads. -/
theorem Stream.Changes.closedEmpty {c : Coordinator} {i : Nat} {s s' : Stream} {st : Step}
    (h : s.Changes c i st s') (hs : s.isOpen = false → s.buffer = []) :
    s'.isOpen = false → s'.buffer = [] := by
  cases h with
  | read there =>
    intro left
    change s.isOpen = false at left
    rw [left] at there
    cases there
  | closed => exact fun _ => rfl
  | moved move =>
    -- A loop puts something into the channel only where there is room, and so somebody who reads.
    cases move with
    | deliver phase room | notice phase room =>
      intro left
      have there := (Bool.and_eq_true_iff.mp room).1
      change s.isOpen = false at left
      rw [left] at there
      cases there
    | _ => exact hs
  | _ => exact hs

/-- Nothing comes into the buffer of a stream that its worker has left. -/
theorem closedEmpty_next {c c' : Coordinator} {st : Step} (hc : c.ClosedEmpty)
    (h : c.next? st = some c') : c'.ClosedEmpty := by
  intro i s' hs'
  rcases stream_before h hs' with ⟨_, _, _, _, _, _, _, _, _, rfl⟩ | ⟨s, hs, change⟩
  · exact fun _ => rfl
  · exact change.closedEmpty (hc i s hs)

/-- In every run the streams that were left are empty. -/
theorem closedEmpty_run {settings : Settings.Coordinator} {now : Instant} {ss : List Step}
    {c : Coordinator} (h : (start settings now).run? ss = some c) : c.ClosedEmpty :=
  run?_always closedEmpty_next h fun _ _ hs => by cases hs

/-! ## Places -/

/-- A task there is held by the coordinator no longer. -/
def Place.isAway : Place → Bool
  | read _ | lost _ | taken => true
  | _ => false

/-- What is located among the holdings is not away. -/
theorem Holdings.isAway_of_mem_located {α : Type} {h : Holdings α} {y : Place × α}
    (hy : y ∈ h.located) : y.1.isAway = false := by
  simp only [located, List.mem_append, List.mem_map, List.mem_flatMap] at hy
  rcases hy with ⟨a, _, rfl⟩ | ⟨l, _, ⟨a, _, rfl⟩ | ⟨a, _, rfl⟩⟩
  · rfl
  · rfl
  · rfl

/-- What a movement lets out is away. -/
theorem Holdings.isAway_of_mem_outgoing {α : Type} {task : α → Task} {h : Holdings α}
    {m : Movement α} {y : Place × α} (hy : y ∈ h.outgoing task m) : y.1.isAway = true := by
  cases m with
  | take p | read i | lose i =>
    obtain ⟨a, _, rfl⟩ := List.mem_map.mp hy
    rfl
  | _ => cases hy

/-- Only the channel of a worker that goes away is lost. -/
theorem Holdings.mem_outgoing_lost {α : Type} {task : α → Task} {h : Holdings α} {m : Movement α}
    {i : Nat} {a : α} : (Place.lost i, a) ∈ h.outgoing task m ↔
      m = .lose i ∧ ∃ l, h.lanes[i]? = some l ∧ a ∈ l.buffer := by
  cases m with
  | lose j =>
    simp only [outgoing, List.mem_map, List.mem_flatMap, Option.mem_toList, Prod.mk.injEq,
      Place.lost.injEq, Movement.lose.injEq]
    constructor
    · rintro ⟨b, ⟨l, hl, hb⟩, rfl, rfl⟩
      exact ⟨rfl, l, hl, hb⟩
    · rintro ⟨rfl, l, hl, ha⟩
      exact ⟨a, ⟨l, hl, ha⟩, rfl, rfl⟩
  | _ => simp [outgoing]

/-- Only closing a stream loses tasks. -/
theorem movement_eq_lose {c : Coordinator} {st : Step} {i : Nat} (h : c.movement st = .lose i) :
    st = .closeStream i := by
  have isOf := c.movement_isOf st
  rwa [h] at isOf

namespace Ledger

/-- What the ledger holds in the place of a stream stands for what the stream holds. -/
theorem Accounts.lane {l : Ledger} {c : Coordinator} (ha : l.Accounts c) (i : Nat) :
    (l.holdings.lanes[i]?).map (Lane.map Prod.fst) = (c.streams[i]?).map Stream.lane := by
  have shown := congrArg (fun h => h.lanes[i]?) ha.shows
  simpa only [Holdings.map, Coordinator.holdings, List.getElem?_map] using shown

/-- What the ledger has in the channel of a stream is there. -/
theorem Accounts.mem_buffer {l : Ledger} {c : Coordinator} (ha : l.Accounts c) {i : Nat}
    {k : Lane Admission} (hk : l.holdings.lanes[i]? = some k) {x : Admission} (hx : x ∈ k.buffer) :
    ∃ s, c.streams[i]? = some s ∧ Delivery.task x.1 ∈ s.buffer := by
  have lane := ha.lane i
  rw [hk, Option.map_some, eq_comm, Option.map_eq_some_iff] at lane
  obtain ⟨s, hs, shown⟩ := lane
  have here : x.1 ∈ s.lane.buffer := by
    rw [shown]
    exact List.mem_map_of_mem hx
  obtain ⟨d, hd, task⟩ := List.mem_filterMap.mp here
  refine ⟨s, hs, ?_⟩
  cases d with
  | task t => cases task; exact hd
  | status e => cases task

/-- An admitted task is in one place only. -/
theorem Accounts.place_eq {l : Ledger} {c : Coordinator} (ha : l.Accounts c) {p q : Place}
    {x : Admission} (hp : (p, x) ∈ l.located) (hq : (q, x) ∈ l.located) : p = q := by
  have numbered : l.admitted.zipIdx.Nodup := by
    refine List.Nodup.of_map Prod.snd ?_
    rw [List.zipIdx_map_snd]
    exact List.nodup_range'
  have once : (l.located.map Prod.snd).Nodup := ha.once.nodup_iff.mpr numbered
  exact congrArg Prod.fst (List.inj_on_of_nodup_map once hp hq rfl)

/-- What is gone stays gone. -/
theorem mem_gone_follow {c : Coordinator} {ss : List Step} :
    ∀ {l : Ledger} {y : Place × Admission}, y ∈ l.gone → y ∈ (follow c l ss).gone := by
  induction ss generalizing c with
  | nil => exact fun hy => hy
  | cons st ss ih =>
    intro l y hy
    simp only [follow]
    split
    · exact ih (List.mem_append_left _ hy)
    · exact hy

/-- What is gone is away. -/
theorem isAway_of_mem_gone {c : Coordinator} {ss : List Step} :
    ∀ {l : Ledger}, (∀ y ∈ l.gone, y.1.isAway = true) →
      ∀ y ∈ (follow c l ss).gone, y.1.isAway = true := by
  induction ss generalizing c with
  | nil => exact fun hl => hl
  | cons st ss ih =>
    intro l hl
    simp only [follow]
    split
    · refine ih fun y hy => ?_
      rcases List.mem_append.mp hy with hy | hy
      · exact hl y hy
      · exact Holdings.isAway_of_mem_outgoing hy
    · exact hl

/-- A step loses a task when it abandons one. -/
theorem record_lost_iff {l : Ledger} {c : Coordinator} {st : Step} (ha : l.Accounts c)
    (hl : ∀ i x, (Place.lost i, x) ∉ l.gone) :
    (∃ i x, (Place.lost i, x) ∈ (l.record (c.movement st)).gone) ↔ c.abandons st = true := by
  have mapped : ∀ i, (c.movement st).map (fun t => (t, l.admitted.length)) = .lose i ↔
      c.movement st = .lose i := by
    intro i
    cases c.movement st <;> simp [Movement.map]
  constructor
  · rintro ⟨i, x, hx⟩
    rcases List.mem_append.mp hx with hx | hx
    · exact absurd hx (hl i x)
    · obtain ⟨hm, k, hk, hb⟩ := Holdings.mem_outgoing_lost.mp hx
      obtain ⟨s, hs, hd⟩ := ha.mem_buffer hk hb
      have here : x.1 ∈ s.lane.buffer := List.mem_filterMap.mpr ⟨_, hd, rfl⟩
      rw [movement_eq_lose ((mapped i).mp hm), abandons, hs, Option.any_some, Bool.not_eq_true',
        List.isEmpty_eq_false_iff]
      -- A task that is lost stood in the buffer that went away.
      exact List.ne_nil_of_mem here
  · intro left
    unfold abandons at left
    split at left
    · next i =>
      obtain ⟨s, hs, left⟩ := (Option.any_eq_true _ _).mp left
      rw [Bool.not_eq_true', List.isEmpty_eq_false_iff] at left
      have lane := ha.lane i
      rw [hs, Option.map_some, Option.map_eq_some_iff] at lane
      obtain ⟨k, hk, shown⟩ := lane
      obtain ⟨t, here⟩ := List.exists_mem_of_ne_nil _ left
      rw [← shown] at here
      obtain ⟨x, hx, -⟩ := List.mem_map.mp here
      exact ⟨i, x, List.mem_append_right _ (Holdings.mem_outgoing_lost.mpr ⟨rfl, k, hk, hx⟩)⟩
    · cases left

/-- A run loses a task when some step of it abandons one. -/
theorem follow_lost_iff {c c' : Coordinator} {ss : List Step} :
    ∀ {l : Ledger}, l.Accounts c → (∀ i x, (Place.lost i, x) ∉ l.gone) → c.run? ss = some c' →
      ((∀ i x, (Place.lost i, x) ∉ (follow c l ss).gone) ↔
        Along (fun c st => c.abandons st = false) c ss) := by
  induction ss generalizing c with
  | nil => exact fun _ hl _ => ⟨fun _ => trivial, fun _ => hl⟩
  | cons st ss ih =>
    intro l ha hl h
    obtain ⟨d, hd, h⟩ := Option.bind_eq_some_iff.mp h
    have step : (∃ i x, (Place.lost i, x) ∈ (l.record (c.movement st)).gone) ↔
        c.abandons st = true := record_lost_iff ha hl
    simp only [follow, hd, Along, Option.some.injEq]
    cases left : c.abandons st with
    | true =>
      obtain ⟨i, x, hx⟩ := step.mpr left
      exact ⟨fun none => absurd (mem_gone_follow hx) (none i x), fun along => by cases along.1⟩
    | false =>
      have kept : ∀ i x, (Place.lost i, x) ∉ (l.record (c.movement st)).gone := fun i x hx => by
        rw [step.mp ⟨i, x, hx⟩] at left
        cases left
      rw [ih (accounts_next ha hd) kept h]
      exact ⟨fun along => ⟨rfl, fun _ same => same ▸ along⟩, fun along => along.2 d rfl⟩

/-- The task is where a worker may still get it from: queued, held by a loop that is about to deliver
or return it, or in the channel of a worker that is there. -/
def Keeps (l : Ledger) (c : Coordinator) (x : Admission) : Prop :=
  ((Place.queued, x) ∈ l.located ∧ x.1 ∈ c.queue.tasks) ∨
  ∃ i s, c.streams[i]? = some s ∧
    ((Place.held i, x) ∈ l.located ∧ (s.phase = .delivering x.1 ∨ s.phase = .returning x.1) ∨
      (Place.buffered i, x) ∈ l.located ∧ s.isOpen = true ∧ Delivery.task x.1 ∈ s.buffer)

/-- A task whose place is not away is kept. -/
theorem Accounts.keeps {l : Ledger} {c : Coordinator} (ha : l.Accounts c)
    (hl : ∀ y ∈ l.gone, y.1.isAway = true) (hc : c.ClosedEmpty) {p : Place} {x : Admission}
    (hp : (p, x) ∈ l.located) (here : p.isAway = false) : l.Keeps c x := by
  have there : (p, x) ∈ l.holdings.located := by
    rcases List.mem_append.mp hp with there | gone
    · exact there
    · have away := hl _ gone
      rw [here] at away
      cases away
  cases p with
  | queued =>
    refine .inl ⟨hp, ?_⟩
    have shown : (l.holdings.map Prod.fst).queue = c.queue.tasks := by rw [ha.shows]; rfl
    rw [← shown]
    exact List.mem_map_of_mem (Holdings.mem_located_queued.mp there)
  | held i =>
    obtain ⟨_, s, hs, hand⟩ := ha.hand hp
    refine .inr ⟨i, s, hs, .inl ⟨hp, ?_⟩⟩
    unfold Stream.hand at hand
    split at hand
    · next phase => cases hand; exact .inl phase
    · next phase => cases hand; exact .inr phase
    · cases hand
  | buffered i =>
    obtain ⟨k, hk, hx⟩ := Holdings.mem_located_buffered.mp there
    obtain ⟨s, hs, hd⟩ := ha.mem_buffer hk hx
    refine .inr ⟨i, s, hs, .inr ⟨hp, ?_, hd⟩⟩
    cases opened : s.isOpen with
    | true => rfl
    | false =>
      rw [hc i s hs opened] at hd
      cases hd
  | read i | lost i | taken => cases here

end Ledger

/-! ## Every task is kept unless a worker leaves one behind -/

/-- After any run in which tasks are taken by loops only, every admitted task that no worker has read
is still where a worker may get it from, if and only if no worker went away from a task in its
channel. -/
theorem unread_tasks_kept_iff {settings : Settings.Coordinator} {now : Instant} {ss : List Step}
    {c : Coordinator} (h : (start settings now).run? ss = some c) (ht : ∀ p, Step.take p ∉ ss) :
    let l := Ledger.ofRun (start settings now) ss
    (∀ x ∈ l.admitted.zipIdx, (∀ i, (Place.read i, x) ∉ l.located) → l.Keeps c x) ↔
      Along (fun c st => c.abandons st = false) (start settings now) ss := by
  intro l
  have account : l.Accounts c := Ledger.accounts_ofRun h
  have away : ∀ y ∈ l.gone, y.1.isAway = true := Ledger.isAway_of_mem_gone fun _ hy => by cases hy
  rw [← Ledger.follow_lost_iff (Ledger.accounts_start settings now) (fun _ _ => List.not_mem_nil) h]
  constructor
  · intro kept i x gone
    have lost : (Place.lost i, x) ∈ l.located := List.mem_append_right _ gone
    have admitted : x ∈ l.admitted.zipIdx := account.once.mem_iff.mp (List.mem_map_of_mem lost)
    -- Every task is in one place, so what is lost has not been read and is not kept either.
    have unread : ∀ j, (Place.read j, x) ∉ l.located := fun j hj => by
      cases account.place_eq lost hj
    rcases kept x admitted unread with ⟨here, _⟩ | ⟨j, s, hs, ⟨here, _⟩ | ⟨here, _⟩⟩
    · cases account.place_eq lost here
    · cases account.place_eq lost here
    · cases account.place_eq lost here
  · intro none x admitted unread
    obtain ⟨⟨p, y⟩, hp, rfl⟩ := List.mem_map.mp (account.once.mem_iff.mpr admitted)
    cases hold : p.isAway with
    | false => exact account.keeps away (closedEmpty_run h) hp hold
    | true =>
      have gone : (p, y) ∈ l.gone := by
        rcases List.mem_append.mp hp with there | gone
        · have here := Holdings.isAway_of_mem_located there
          rw [hold] at here
          cases here
        · exact gone
      cases p with
      | read i => exact absurd hp (unread i)
      | lost i => exact absurd gone (none i y)
      | taken => exact absurd gone (Ledger.follow_taken ht (fun _ => List.not_mem_nil) y)
      | queued | held i | buffered i => cases hold

/-- A worker goes away while the loop of its stream has a task for it. -/
def withdrawal : List Step :=
  [.register ⟨"w", "worker", .empty, "1", .empty⟩, .openStream "w" (Fresh.token 0) 1 false, .feed 0,
    .queueTask (.plain "a" .cleanup [] .epoch), .loop 0 .check, .loop 0 .wake, .loop 0 .look,
    .closeStream 0, .loop 0 .giveUp, .loop 0 .putBack, .loop 0 .explain, .loop 0 .leave]

/-- Its channel was empty, so that the task is kept. -/
theorem unread_tasks_kept_iff_withdrawal :
    ∃ c, (start .default .epoch).run? withdrawal = some c ∧
      ∀ x ∈ (Ledger.ofRun (start .default .epoch) withdrawal).admitted.zipIdx,
        (∀ i, (Place.read i, x) ∉ (Ledger.ofRun (start .default .epoch) withdrawal).located) →
          (Ledger.ofRun (start .default .epoch) withdrawal).Keeps c x := by
  have finishes : ((start .default .epoch).run? withdrawal).isSome = true := by decide +kernel
  obtain ⟨c, hc⟩ := Option.isSome_iff_exists.mp finishes
  have loops : ∀ p, Step.take p ∉ withdrawal := fun p => by simp [withdrawal]
  have none : Along (fun c st => c.abandons st = false) (start .default .epoch) withdrawal := by
    decide +kernel
  exact ⟨c, hc, (unread_tasks_kept_iff hc loops).mpr none⟩

/-- A worker goes away when the task that its loop had for it is in its channel. -/
def abandonment : List Step :=
  [.register ⟨"w", "worker", .empty, "1", .empty⟩, .openStream "w" (Fresh.token 0) 1 false, .feed 0,
    .queueTask (.plain "a" .cleanup [] .epoch), .loop 0 .check, .loop 0 .wake, .loop 0 .look,
    .loop 0 .deliver, .closeStream 0, .loop 0 .check, .loop 0 .wake, .loop 0 .leave]

/-- The task is gone, though the coordinator runs on and no worker has read anything. -/
theorem buffered_task_lost :
    ∃ c, (start .default .epoch).run? abandonment = some c ∧ c.isShuttingDown = false ∧
      ∃ x ∈ (Ledger.ofRun (start .default .epoch) abandonment).admitted.zipIdx,
        (∀ i, (Place.read i, x) ∉ (Ledger.ofRun (start .default .epoch) abandonment).located) ∧
          ¬ (Ledger.ofRun (start .default .epoch) abandonment).Keeps c x := by
  have ends : ((start .default .epoch).run? abandonment).map (·.isShuttingDown) = some false := by
    decide +kernel
  obtain ⟨c, hc, up⟩ := Option.map_eq_some_iff.mp ends
  have admitted : (Ledger.ofRun (start .default .epoch) abandonment).admitted =
      [.plain "a" .cleanup [] .epoch] := by decide +kernel
  have places : (Ledger.ofRun (start .default .epoch) abandonment).located =
      [(.lost 0, .plain "a" .cleanup [] .epoch, 0)] := by decide +kernel
  refine ⟨c, hc, up, (.plain "a" .cleanup [] .epoch, 0), ?_, fun i hi => ?_, ?_⟩
  · rw [admitted]
    exact List.mem_singleton_self _
  · rw [places] at hi
    cases List.mem_singleton.mp hi
  · rintro (⟨hx, _⟩ | ⟨i, s, _, ⟨hx, _⟩ | ⟨hx, _⟩⟩)
    · rw [places] at hx
      cases List.mem_singleton.mp hx
    · rw [places] at hx
      cases List.mem_singleton.mp hx
    · rw [places] at hx
      cases List.mem_singleton.mp hx

end WorkDispatch.Coordinator
