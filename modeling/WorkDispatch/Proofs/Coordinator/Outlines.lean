import WorkDispatch.Coordinator.Dispatch

/-!
# What the dispatch looks at

Of a task the coordinator looks at two things: its id, which has to be there, and its type, which says
who can do it. All else travels with it. `Task.outline` leaves nothing but these two, and `outline` does
so with every task that a coordinator holds.

`next?_outline` says that outlines are kept by every step: the step of the outline is the outline of the
step. So two runs whose tasks have the same outlines go the same way, which is `scheduled_by_outline`:
the same tasks are admitted and refused, with the same failures, the same ids go to the same streams in
the same order, and the queues have the same ids at every time.

Somebody who has no stream may take a task by whatever he likes. The law is for those who look at
outlines, as every loop does.
-/

set_option autoImplicit false

namespace WorkDispatch

/-! ## Outlines -/

/-- A task of the same id and type that brings nothing else. -/
def Task.outline (t : Task) : Task := .plain t.id t.type [] .epoch

/-- Tasks with the same outline are those that agree in id and type. -/
theorem Task.outline_eq_iff {t u : Task} : t.outline = u.outline ↔ t.id = u.id ∧ t.type = u.type := by
  simp only [outline, plain, mk.injEq, and_true]

/-- A condition on tasks that looks at outlines only. -/
def OnOutline (p : Task → Bool) : Prop := ∀ t, p t.outline = p t

/-- Who looks at outlines judges an outline as the task. -/
theorem OnOutline.comp_eq {p : Task → Bool} (hp : OnOutline p) : p ∘ Task.outline = p := funext hp

namespace Queue

def outline (q : Queue) : Queue := { q with tasks := q.tasks.map Task.outline }

/-- A queue admits outlines as it admits tasks. -/
theorem enqueue_outline (q : Queue) (t : Task) :
    q.outline.enqueue t.outline = (q.enqueue t).map fun r => (r.1, r.2.outline) := by
  have size : q.outline.size = q.size := List.length_map ..
  unfold enqueue
  rw [size]
  change (if q.capacity ≤ q.size then _ else _) = _
  split
  · rfl
  · simp only [Except.map, outline, List.map_append, List.map_cons, List.map_nil]

/-- The same tasks leave when a few are passed over. -/
theorem takeAfter_outline (q : Queue) (passed : Nat) {p : Task → Bool} (hp : OnOutline p) :
    q.outline.takeAfter passed p =
      ((q.takeAfter passed p).1.map Task.outline, (q.takeAfter passed p).2.outline) := by
  simp only [takeAfter, outline, ← List.map_drop, List.find?_map, eraseAfter_map, hp.comp_eq]

/-- The same tasks leave. -/
theorem take_outline (q : Queue) {p : Task → Bool} (hp : OnOutline p) :
    q.outline.take p = ((q.take p).1.map Task.outline, (q.take p).2.outline) := by
  simp only [take, outline, List.find?_map, List.eraseP_map, hp.comp_eq]

end Queue

namespace Coordinator

def Delivery.outline : Delivery → Delivery
  | .task t => .task t.outline
  | .status s => .status s

namespace Stream

def Phase.outline : Phase → Phase
  | .delivering t => .delivering t.outline
  | .returning t => .returning t.outline
  | p => p

def outline (s : Stream) : Stream :=
  { s with buffer := s.buffer.map Delivery.outline, phase := s.phase.outline }

/-- A channel has room for an outline if it has for the task. -/
theorem hasRoom_outline (s : Stream) : s.outline.hasRoom = s.hasRoom := by
  simp only [hasRoom, outline, List.length_map]

/-- The outline of what is delivered is delivered as an outline. -/
theorem put_outline (s : Stream) (d : Delivery) : s.outline.put d.outline = (s.put d).outline := by
  simp only [put, outline, List.map_append, List.map_cons, List.map_nil]

/-- In a hand is the outline of what was. -/
theorem hand_outline (s : Stream) : s.outline.hand = s.hand.map Task.outline := by
  simp only [hand, outline]
  cases s.phase <;> rfl

/-- Being told has nothing to do with tasks. -/
theorem tell_outline (s : Stream) : s.outline.tell = s.tell.outline := by
  obtain ⟨_, _, _, _, _, _, phase⟩ := s
  cases phase <;> rfl

/-- A worker reads outlines as it reads tasks. -/
theorem receive_outline (s : Stream) : s.outline.receive.2 = s.receive.2.outline := by
  obtain ⟨_, _, _, buffer, isOpen, _, _⟩ := s
  cases isOpen with
  | false => rfl
  | true => cases buffer <;> rfl

end Stream

def outline (c : Coordinator) : Coordinator :=
  { c with queue := c.queue.outline, streams := c.streams.map Stream.outline }

namespace Step

/-- A step with the outline of the task that it brings. -/
def outline : Step → Step
  | .queueTask t => .queueTask t.outline
  | st => st

/-- A step that takes a task takes it by its outline. -/
def LooksAtOutlines : Step → Prop
  | .take p => OnOutline p
  | _ => True

/-- Whether a step looks at outlines only is left as it is by outlining it. -/
theorem looksAtOutlines_outline {st : Step} : st.outline.LooksAtOutlines ↔ st.LooksAtOutlines := by
  cases st <;> rfl

end Step

section

variable (c : Coordinator) (i : Nat)

theorem stream_outline : c.outline.streams[i]? = (c.streams[i]?).map Stream.outline :=
  List.getElem?_map

theorem isOpen_outline : c.outline.isOpen = c.isOpen := by
  funext j
  simp only [isOpen, stream_outline]
  cases c.streams[j]? <;> rfl

/-- A change of a stream that comes to the same for its outline comes to the same for the whole. -/
theorem modify_outline {f g : Stream → Stream} (h : ∀ s, g s.outline = (f s).outline) :
    c.outline.modify i g = (c.modify i f).outline := by
  have streams : (c.streams.map Stream.outline).modify i g =
      (c.streams.modify i f).map Stream.outline := by
    apply List.ext_getElem?
    intro j
    simp only [List.getElem?_map, List.getElem?_modify, Option.map_eq_map]
    by_cases hij : i = j
    · simp only [hij, if_true, Option.map_map, Function.comp_def, h]
    · simp only [hij, if_false, Option.map_map, Function.comp_def, Option.map_id']
  simp only [modify, outline, streams]

/-- A loop goes to the outline of a phase as it goes to the phase. -/
theorem move_outline (p : Stream.Phase) : c.outline.move i p.outline = (c.move i p).outline :=
  modify_outline c i fun _ => rfl

/-- A loop goes to a phase without a task. -/
theorem move_plain {p : Stream.Phase} (h : p.outline = p) : c.outline.move i p = (c.move i p).outline := by
  have moved := move_outline c i p
  rwa [h] at moved

end

theorem tellLoops_outline (c : Coordinator) : c.outline.tellLoops = c.tellLoops.outline := by
  simp only [tellLoops, outline, List.map_map, Function.comp_def, Stream.tell_outline]

/-! ## Moves of a loop -/

section Loop

variable (c : Coordinator) (i : Nat) (s : Stream)

/-- What a loop looks for is a matter of outlines, and is the same in the outline. -/
theorem onOutline_suits : OnOutline (c.suits s) := fun _ => rfl

/-- Checking has nothing to do with tasks. -/
theorem check_outline : c.outline.check i s.outline = (c.check i s).map outline := by
  simp only [check, Stream.outline]
  cases s.phase with
  | checking =>
    change (if c.registry.isActiveAt s.workerId c.now then _ else _) = _
    simp only
    split
    · exact congrArg some (move_outline c i .choosing)
    · exact congrArg some (move_outline c i (.holding (c.elapsed + recheckInterval)))
  | _ => rfl

/-- Neither has waking. -/
theorem wake_outline : c.outline.wake i s.outline = (c.wake i s).map outline := by
  obtain ⟨workerId, capabilities, room, buffer, isOpen, announces, phase⟩ := s
  -- A loop that waits has no task, and neither has what it goes on to.
  have goes_on : ∀ p q : Stream.Phase, q.outline = q →
      (if c.isShuttingDown then some (c.outline.move i (.leaving .shuttingDown))
        else if !isOpen then some (c.outline.move i (.leaving .leftByWorker))
        else if q = p then none else some (c.outline.move i q)) =
      (if c.isShuttingDown then some (c.move i (.leaving .shuttingDown))
        else if !isOpen then some (c.move i (.leaving .leftByWorker))
        else if q = p then none else some (c.move i q)).map outline := by
    intro p q plain
    rw [move_plain c i plain, move_plain c i (p := .leaving .shuttingDown) rfl,
      move_plain c i (p := .leaving .leftByWorker) rfl]
    split
    · rfl
    · split
      · rfl
      · split <;> rfl
  cases phase with
  | choosing => exact goes_on .choosing (.waiting .asking) rfl
  | holding t =>
    refine goes_on (.holding t) (if t ≤ c.elapsed then .checking else .holding t) ?_
    split <;> rfl
  | waiting w =>
    obtain ⟨_ | _, told⟩ := w
    · rfl
    · refine goes_on (.waiting ⟨true, told⟩)
        (if told then .waiting .asking else .waiting ⟨true, told⟩) ?_
      split <;> rfl
  | _ => rfl

/-- A look finds the outline of the task that it finds, behind as many as it passed over. -/
theorem look_outline : c.outline.look i s.outline = (c.look i s).map outline := by
  have taken : c.outline.queue.takeAfter (c.outline.passedOver i) (c.outline.suits s.outline) =
      ((c.queue.takeAfter (c.passedOver i) (c.suits s)).1.map Task.outline,
        (c.queue.takeAfter (c.passedOver i) (c.suits s)).2.outline) :=
    c.queue.takeAfter_outline (c.passedOver i) (onOutline_suits c s)
  unfold look
  simp only [taken]
  simp only [Stream.outline]
  cases s.phase with
  | waiting w =>
    obtain ⟨_ | _, told⟩ := w
    · simp only [Stream.Phase.outline]
      rcases c.queue.takeAfter (c.passedOver i) (c.suits s) with ⟨_ | t, q⟩
      · exact congrArg some (move_outline { c with scan := none } i (.waiting ⟨true, told⟩))
      · exact congrArg some (move_outline { c with queue := q, scan := none } i (.delivering t))
    · rfl
  | _ => rfl

/-- What a look passes over it passes over as an outline. -/
theorem passOver_outline : c.outline.passOver i s.outline = (c.passOver i s).map outline := by
  have here : c.outline.queue.tasks[c.outline.passedOver i]? =
      (c.queue.tasks[c.passedOver i]?).map Task.outline := List.getElem?_map
  unfold passOver
  simp only [here]
  simp only [Stream.outline]
  cases s.phase with
  | waiting w =>
    obtain ⟨_ | _, told⟩ := w
    · simp only [Stream.Phase.outline]
      cases c.queue.tasks[c.passedOver i]? with
      | none => rfl
      | some t =>
        change (if c.suits s t then _ else _) = _
        simp only
        split <;> rfl
    · rfl
  | _ => rfl

/-- The outline of a delivery is the delivery of an outline. -/
theorem deliver_outline : c.outline.deliver i s.outline = (c.deliver i s).map outline := by
  unfold deliver
  rw [Stream.hasRoom_outline]
  simp only [Stream.outline]
  cases s.phase with
  | delivering t =>
    simp only [Stream.Phase.outline]
    split
    · refine congrArg some (modify_outline c i fun s => ?_)
      have put := Stream.put_outline s (.task t)
      simp only [Delivery.outline] at put
      simp only [put]
      rfl
    · rfl
  | _ => rfl

/-- A loop gives up whatever the task in hand says. -/
theorem giveUp_outline : c.outline.giveUp i s.outline = (c.giveUp i s).map outline := by
  simp only [giveUp, Stream.outline]
  cases s.phase with
  | delivering t =>
    change (if !s.isOpen || c.isShuttingDown then _ else _) = _
    simp only
    split
    · exact congrArg some (move_outline c i (.returning t))
    · rfl
  | _ => rfl

/-- The outline of the task in hand is put back. -/
theorem putBack_outline : c.outline.putBack i s.outline = (c.putBack i s).map outline := by
  simp only [putBack, Stream.outline]
  cases s.phase with
  | returning t =>
    exact congrArg some (move_outline
      { c with queue := c.queue.requeue t, scan := none, telling := c.telling + 1 } i .returned)
  | _ => rfl

theorem explain_outline : c.outline.explain i s.outline = (c.explain i s).map outline := by
  simp only [explain, Stream.outline]
  cases s.phase with
  | returned =>
    exact congrArg some
      (move_outline c i (.leaving (if c.isShuttingDown then .shuttingDown else .failedDelivery)))
  | _ => rfl

theorem leave_outline : c.outline.leave i s.outline = (c.leave i s).map outline := by
  simp only [leave, Stream.outline]
  cases s.phase with
  | leaving e =>
    exact congrArg some
      (move_plain { c with registry := c.registry.detach s.workerId i } i (apply_ite ..))
  | _ => rfl

theorem announce_outline : c.outline.announce i s.outline = (c.announce i s).map outline := by
  simp only [announce, Stream.outline]
  cases s.phase with
  | announcing e =>
    refine congrArg some (modify_outline c i fun s => ?_)
    have put := Stream.put_outline s (.status ⟨.unavailable, e.toFailure.message⟩)
    simp only [Delivery.outline] at put
    simp only [Stream.hasRoom_outline, put]
    split <;> rfl
  | _ => rfl

/-- Each move of a loop is one on outlines. -/
theorem apply_outline (m : Move) : m.apply c.outline i s.outline = (m.apply c i s).map outline := by
  cases m with
  | check => exact check_outline c i s
  | wake => exact wake_outline c i s
  | look => exact look_outline c i s
  | deliver => exact deliver_outline c i s
  | giveUp => exact giveUp_outline c i s
  | putBack => exact putBack_outline c i s
  | explain => exact explain_outline c i s
  | leave => exact leave_outline c i s
  | announce => exact announce_outline c i s

end Loop

/-! ## Steps -/

/-- A task is admitted or refused by its outline. -/
theorem queueTask_outline (c : Coordinator) (t : Task) :
    c.outline.queueTask t.outline = (c.queueTask t).map outline := by
  have admitted : c.outline.queue.enqueue t.outline = _ := c.queue.enqueue_outline t
  simp only [queueTask, admitted]
  change (if Text.isAllBlank t.id then _ else _) = _
  split
  · rfl
  · cases c.queue.enqueue t <;> rfl

/-- Streams are opened whatever is queued. -/
theorem openStream_outline (c : Coordinator) (id token : String) (room : Nat) (announces : Bool) :
    c.outline.openStream id token room announces =
      (c.openStream id token room announces).map fun r => (r.1, r.2.outline) := by
  have length : c.outline.streams.length = c.streams.length := List.length_map ..
  have attached : c.outline.registry.attach id token c.streams.length =
      c.registry.attach id token c.streams.length := rfl
  simp only [openStream, length, attached]
  cases c.registry.attach id token c.streams.length with
  | error e => rfl
  | ok w =>
    simp only [Except.map, outline, List.map_append]
    rfl

/-- A step that looks at outlines only does on the outlines what it does, and is possible when it is. -/
theorem next?_outline (c : Coordinator) {st : Step} (h : st.LooksAtOutlines) :
    c.outline.next? st.outline = (c.next? st).map outline := by
  cases st with
  | register g =>
    simp only [Step.outline, next?, register, outline]
    cases c.registry.register g (Fresh.token c.supply) c.now <;> rfl
  | beginHeartbeat id => rfl
  | endHeartbeat place token status stats =>
    simp only [Step.outline, next?, endHeartbeat, outline]
    split
    · rfl
    · split <;> rfl
  | openStream id token room announces =>
    simp only [Step.outline, next?, openStream_outline]
    cases c.openStream id token room announces <;> rfl
  | feed i =>
    refine congrArg some (modify_outline c i fun s => ?_)
    obtain ⟨_, _, _, _, _, _, phase⟩ := s
    cases phase <;> rfl
  | receive i =>
    simp only [Step.outline, next?, receive, stream_outline]
    cases c.streams[i]? with
    | none => rfl
    | some s => exact congrArg some (modify_outline c i fun _ => Stream.receive_outline s)
  | closeStream i => exact congrArg some (modify_outline c i fun _ => rfl)
  | detach id i => rfl
  | queueTask t =>
    simp only [Step.outline, next?, queueTask_outline]
    cases c.queueTask t <;> rfl
  | take p =>
    -- The one case that needs the assumption: who takes must not look past an outline.
    have taken : c.outline.queue.take p = _ := c.queue.take_outline h
    simp only [Step.outline, next?, take, taken]
    rfl
  | report r =>
    simp only [Step.outline, next?, report, outline]
    split
    · rfl
    · split <;> rfl
  | prune =>
    simp only [Step.outline, next?, prune, isOpen_outline]
    rfl
  | tell =>
    -- The notices that are due are counted, and their number is no part of an outline.
    change (if c.telling = 0 then none else some { c.outline.tellLoops with telling := c.telling - 1 }) =
      c.tell.map outline
    rw [tellLoops_outline, tell]
    split <;> rfl
  | loop i m =>
    simp only [Step.outline, next?, stream_outline]
    cases c.streams[i]? with
    | none => rfl
    | some s => exact apply_outline c i s m
  | passOver i =>
    simp only [Step.outline, next?, stream_outline]
    cases c.streams[i]? with
    | none => rfl
    | some s => exact passOver_outline c i s
  | beginShutdown => rfl
  | backdate id age =>
    simp only [Step.outline, next?, outline, Option.map_map, Function.comp_def]
  | pass time => rfl

/-- So does a whole run. -/
theorem run?_outline {ss : List Step} (h : ∀ st ∈ ss, st.LooksAtOutlines) (c : Coordinator) :
    c.outline.run? (ss.map Step.outline) = (c.run? ss).map outline := by
  induction ss generalizing c with
  | nil => rfl
  | cons st ss ih =>
    have first := next?_outline c (h st List.mem_cons_self)
    have rest := ih fun r hr => h r (List.mem_cons_of_mem st hr)
    simp only [run?, List.map_cons, List.foldlM_cons] at rest ⊢
    rw [first]
    cases c.next? st with
    | none => rfl
    | some d => exact rest d

/-! ## What is seen of a run -/

/-- What is seen of a step. -/
structure Notice where
  /-- What somebody was told who brought a task. -/
  answer : Option (Except Failure Unit)
  /-- The id of a task that was taken, and the stream that has it, if it was taken for one. -/
  taken : Option (Option Nat × String)
  /-- The ids in the queue afterwards. -/
  queue : List String

/-- What somebody is told who brings a task. -/
def answer (c : Coordinator) : Step → Option (Except Failure Unit)
  | .queueTask t => some ((c.queueTask t).map fun _ => ())
  | _ => none

/-- What a step takes from the queue, if it leads to a state: a loop that looked has it in its hand. -/
def taken (c : Coordinator) (st : Step) (next : Coordinator) : Option (Option Nat × String) :=
  match st with
  | .take p => (c.take p).1.map fun t => (none, t.id)
  | .loop i .look => (next.streams[i]?.bind Stream.hand).map fun t => (some i, t.id)
  | _ => none

/-- What is seen of a step that leads to a state. -/
def notice (c : Coordinator) (st : Step) (next : Coordinator) : Notice :=
  ⟨c.answer st, c.taken st next, next.queue.tasks.map Task.id⟩

/-- What is seen of a schedule, up to a step that cannot be taken. -/
def watch (c : Coordinator) : List Step → List Notice
  | [] => []
  | st :: ss =>
    match c.next? st with
    | some next => c.notice st next :: next.watch ss
    | none => []

/-- What is answered says nothing that the outlines do not. -/
theorem answer_outline (c : Coordinator) (st : Step) : c.outline.answer st.outline = c.answer st := by
  cases st with
  | queueTask t =>
    simp only [Step.outline, answer, queueTask_outline]
    cases c.queueTask t <;> rfl
  | _ => rfl

/-- What is taken has the same id, in the same hand. -/
theorem taken_outline (c next : Coordinator) {st : Step} (h : st.LooksAtOutlines) :
    c.outline.taken st.outline next.outline = c.taken st next := by
  cases st with
  | take p =>
    have left : c.outline.queue.take p = _ := c.queue.take_outline h
    simp only [Step.outline, taken, take, left, Option.map_map]
    rfl
  | loop i m =>
    cases m with
    | look =>
      simp only [Step.outline, taken, stream_outline]
      cases next.streams[i]? with
      | none => rfl
      | some s =>
        simp only [Option.map_some, Option.bind_some, Stream.hand_outline, Option.map_map]
        rfl
    | _ => rfl
  | _ => rfl

/-- All that is noticed of a step is the same. -/
theorem notice_outline (c next : Coordinator) {st : Step} (h : st.LooksAtOutlines) :
    c.outline.notice st.outline next.outline = c.notice st next := by
  simp only [notice, answer_outline, taken_outline c next h]
  simp only [outline, Queue.outline, List.map_map]
  rfl

/-- The outline of a run looks like the run. -/
theorem watch_outline {ss : List Step} (h : ∀ st ∈ ss, st.LooksAtOutlines) (c : Coordinator) :
    c.outline.watch (ss.map Step.outline) = c.watch ss := by
  induction ss generalizing c with
  | nil => rfl
  | cons st ss ih =>
    have looks := h st List.mem_cons_self
    have rest := ih fun r hr => h r (List.mem_cons_of_mem st hr)
    simp only [watch, List.map_cons, next?_outline c looks]
    cases c.next? st with
    | none => rfl
    | some next =>
      simp only [Option.map_some, notice_outline c next looks, rest]

/-- Two runs in which the same happens, to tasks of the same ids and types, look the same at every
step: who is admitted and with which failure he is refused, which id goes to which stream, and the ids
that the queue has afterwards. They come as far as each other, to states that differ in nothing but what
else their tasks bring. -/
theorem scheduled_by_outline {c d : Coordinator} {ss rs : List Step} (same : c.outline = d.outline)
    (steps : ss.map Step.outline = rs.map Step.outline) (looks : ∀ st ∈ ss, st.LooksAtOutlines) :
    c.watch ss = d.watch rs ∧ (c.run? ss).map outline = (d.run? rs).map outline := by
  have looks' : ∀ st ∈ rs, st.LooksAtOutlines := by
    intro st hst
    have mem : st.outline ∈ ss.map Step.outline := steps ▸ List.mem_map_of_mem hst
    obtain ⟨r, hr, eq⟩ := List.mem_map.mp mem
    exact Step.looksAtOutlines_outline.mp (eq ▸ Step.looksAtOutlines_outline.mpr (looks r hr))
  constructor
  · rw [← watch_outline looks c, ← watch_outline looks' d, same, steps]
  · rw [← run?_outline looks c, ← run?_outline looks' d, same, steps]

/-- A worker goes away from a task that was taken for it, and another worker gets the task; the queue
holds two tasks, and somebody else makes them up. -/
def passedOn (task : String → TaskType → Task) : List Step :=
  [.register ⟨"v", "worker", .empty, "1", .empty⟩, .openStream "v" (Fresh.token 0) 1 false, .feed 0,
    .register ⟨"w", "worker", .empty, "1", .empty⟩, .openStream "w" (Fresh.token 1) 1 false, .feed 1,
    .queueTask (task "" .cleanup), .queueTask (task "b" .weeklyReport), .queueTask (task "a" .cleanup),
    .queueTask (task "c" .cleanup), .loop 0 .check, .loop 0 .wake, .loop 0 .look, .closeStream 0,
    .loop 1 .check, .loop 1 .wake, .loop 1 .look, .loop 0 .giveUp, .loop 0 .putBack, .tell,
    .loop 1 .wake, .loop 1 .look, .loop 1 .deliver, .take fun t => t.type == .weeklyReport]

/-- Their priorities, deadlines and payloads change nothing of who gets which task. -/
theorem scheduled_by_outline_passedOn :
    let start := start { Settings.Coordinator.default with queueCapacity := 2 } .epoch
    let calm := passedOn fun id type => .plain id type [] .epoch
    let urgent := passedOn fun id type => ⟨id, type, [1], 7, some .epoch, .empty, .epoch⟩
    start.watch calm = start.watch urgent ∧
      (start.run? calm).map outline = (start.run? urgent).map outline ∧
      (start.watch urgent).filterMap Notice.taken = [(some 0, "a"), (some 1, "a"), (none, "b")] := by
  intro start calm urgent
  have looks : ∀ st ∈ calm, st.LooksAtOutlines := by
    simp only [calm, passedOn, List.forall_mem_cons, Step.LooksAtOutlines, OnOutline, true_and]
    exact ⟨fun _ => rfl, fun _ h => by cases h⟩
  have steps : calm.map Step.outline = urgent.map Step.outline := rfl
  have alike := scheduled_by_outline (c := start) (d := start) rfl steps looks
  exact ⟨alike.1, alike.2, by decide +kernel⟩

end Coordinator

end WorkDispatch
