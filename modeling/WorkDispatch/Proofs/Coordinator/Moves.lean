import WorkDispatch.Coordinator.Dispatch

/-!
# What a step can do

`Moves` lists what a loop can do: in which phase, under which condition, and what becomes of its stream
and of the coordinator. `Stream.Changes` lists what any step can do to one stream. `apply_moves` and
`stream_before` say that nothing else happens, so that an invariant of the dispatch is a look at these
lists and the functions behind the steps need not be opened again.

`run?_keeps` makes of what every step keeps what a whole run keeps. The steps may be held to a condition
along the run, for laws that hold only while something does not happen; and what happens may be written
down along it (`writtenAlong_keeps`), for laws about the past.
-/

set_option autoImplicit false

namespace WorkDispatch.Coordinator

/-! ## A coordinator with one stream changed -/

section Modify

variable (c : Coordinator) (i : Nat) (f : Stream → Stream)

@[simp] theorem length_streams_modify : (c.modify i f).streams.length = c.streams.length :=
  List.length_modify ..

variable {c i f}

/-- What is said of every stream is said of those that are left alone and of the one that is changed. -/
theorem of_streams_modify {j : Nat} {s' : Stream} (h : (c.modify i f).streams[j]? = some s') :
    ∃ s, c.streams[j]? = some s ∧ s' = if i = j then f s else s := by
  simp only [modify, List.getElem?_modify, Option.map_eq_map, Option.map_eq_some_iff] at h
  obtain ⟨s, hs, rfl⟩ := h
  exact ⟨s, hs, rfl⟩

/-- A stream that is modified is there afterwards. -/
theorem streams_modify {s : Stream} (hs : c.streams[i]? = some s) :
    (c.modify i f).streams[i]? = some (f s) := by
  simp only [modify, List.getElem?_modify_eq, hs, Option.map_eq_map, Option.map_some]

/-- Only what the change does to the stream that is there matters. -/
theorem modify_eq_of_stream {s : Stream} (hs : c.streams[i]? = some s) :
    c.modify i f = c.modify i fun _ => f s := by
  have hl : c.streams.modify i f = c.streams.modify i fun _ => f s := by
    apply List.ext_getElem?
    intro j
    simp only [List.getElem?_modify, Option.map_eq_map]
    by_cases hij : i = j
    · subst hij
      simp only [hs, if_true, Option.map_some]
    · simp only [hij, if_false]
  simp only [modify, hl]

end Modify

/-! ## Moves of a loop -/

/-- The loop waits for something that may be overtaken by the shutdown or by its worker. -/
def Stream.Phase.isIdle : Stream.Phase → Bool
  | .choosing | .holding _ | .waiting ⟨true, _⟩ => true
  | _ => false

/-- What a move of the loop of a stream makes of the stream, and of the coordinator apart from it. -/
inductive Moves (c : Coordinator) (i : Nat) (s : Stream) : Move → Stream → Coordinator → Prop
  | resume (phase : s.phase = .checking)
      (active : c.registry.isActiveAt s.workerId c.now = true) :
      Moves c i s .check { s with phase := .choosing } c
  | hold (phase : s.phase = .checking)
      (stale : c.registry.isActiveAt s.workerId c.now = false) :
      Moves c i s .check { s with phase := .holding (c.elapsed + recheckInterval) } c
  | stop (idle : s.phase.isIdle = true) (down : c.isShuttingDown = true) :
      Moves c i s .wake { s with phase := .leaving .shuttingDown } c
  | miss (idle : s.phase.isIdle = true) (up : c.isShuttingDown = false)
      (left : s.isOpen = false) : Moves c i s .wake { s with phase := .leaving .leftByWorker } c
  | recheck {t : Span} (phase : s.phase = .holding t) (due : t ≤ c.elapsed)
      (up : c.isShuttingDown = false) (there : s.isOpen = true) :
      Moves c i s .wake { s with phase := .checking } c
  | ask (phase : s.phase = .choosing ∨ s.phase = .waiting ⟨true, true⟩)
      (up : c.isShuttingDown = false) (there : s.isOpen = true) :
      Moves c i s .wake { s with phase := .waiting .asking } c
  | pick {told : Bool} {t : Task} (phase : s.phase = .waiting ⟨false, told⟩)
      (first : (c.queue.tasks.drop (c.passedOver i)).find? (c.suits s) = some t) :
      Moves c i s .look { s with phase := .delivering t }
        { c with queue := (c.queue.takeAfter (c.passedOver i) (c.suits s)).2, scan := none }
  | park {told : Bool} (phase : s.phase = .waiting ⟨false, told⟩)
      (nothing : ∀ t ∈ c.queue.tasks.drop (c.passedOver i), c.suits s t = false) :
      Moves c i s .look { s with phase := .waiting ⟨true, told⟩ } { c with scan := none }
  | deliver {t : Task} (phase : s.phase = .delivering t) (room : s.hasRoom = true) :
      Moves c i s .deliver { s.put (.task t) with phase := .checking } c
  | giveUp {t : Task} (phase : s.phase = .delivering t)
      (reason : s.isOpen = false ∨ c.isShuttingDown = true) :
      Moves c i s .giveUp { s with phase := .returning t } c
  | putBack {t : Task} (phase : s.phase = .returning t) :
      Moves c i s .putBack { s with phase := .returned }
        { c with queue := c.queue.requeue t, scan := none, telling := c.telling + 1 }
  | explain (phase : s.phase = .returned) :
      Moves c i s .explain
        { s with phase := .leaving (if c.isShuttingDown then .shuttingDown else .failedDelivery) } c
  | leave {e : Ending} (phase : s.phase = .leaving e) :
      Moves c i s .leave
        { s with phase := if s.announces && e == .shuttingDown then .announcing e else .ended e }
        { c with registry := c.registry.detach s.workerId i }
  | notice {e : Ending} (phase : s.phase = .announcing e) (room : s.hasRoom = true) :
      Moves c i s .announce
        { s.put (.status ⟨.unavailable, e.toFailure.message⟩) with phase := .ended e } c
  | silence {e : Ending} (phase : s.phase = .announcing e) (full : s.hasRoom = false) :
      Moves c i s .announce { s with phase := .ended e } c

section Moves

variable {c c' : Coordinator} {i : Nat} {s : Stream}

/-- A move that was made comes of a stream and the coordinator around it in one of the ways listed. -/
theorem moved {m : Move} {f : Stream → Stream} {d : Coordinator} (hd : d.streams = c.streams)
    (hs : c.streams[i]? = some s) (h : Moves c i s m (f s) d) (hc : d.modify i f = c') :
    ∃ s' d, Moves c i s m s' d ∧ c' = d.modify i fun _ => s' :=
  ⟨f s, d, h, hc ▸ modify_eq_of_stream (hd ▸ hs)⟩

/-- What a loop does when it wakes is one of the moves. -/
theorem wake_moves (hs : c.streams[i]? = some s) (h : c.wake i s = some c') :
    ∃ s' d, Moves c i s .wake s' d ∧ c' = d.modify i fun _ => s' := by
  unfold wake at h
  obtain ⟨p, hp, h⟩ := Option.bind_eq_some_iff.mp h
  have idle : s.phase.isIdle = true := by
    split at hp
    · next ph => rw [ph]; rfl
    · next ph => rw [ph]; rfl
    · next ph => rw [ph]; rfl
    · cases hp
  split at h
  · next down => exact moved rfl hs (.stop idle down) (Option.some.inj h)
  · next up =>
    have up := Bool.eq_false_iff.mpr up
    split at h
    · next left =>
      refine moved rfl hs (.miss idle up ?_) (Option.some.inj h)
      simpa using left
    · next there =>
      have there : s.isOpen = true := by simpa using there
      split at h
      · cases h
      · next hne =>
        -- A loop that is woken for nothing stays as it is, and that is no move.
        split at hp
        · next ph =>
          cases hp
          exact moved rfl hs (.ask (.inl ph) up there) (Option.some.inj h)
        · next t ph =>
          cases hp
          split at h
          · next due => exact moved rfl hs (.recheck ph due up there) (Option.some.inj h)
          · next late => rw [if_neg late] at hne; exact absurd rfl hne
        · next told ph =>
          cases hp
          cases told with
          | true => exact moved rfl hs (.ask (.inr ph) up there) (Option.some.inj h)
          | false => exact absurd rfl hne
        · cases hp

/-- What a loop does when it looks is one of the moves. -/
theorem look_moves (hs : c.streams[i]? = some s) (h : c.look i s = some c') :
    ∃ s' d, Moves c i s .look s' d ∧ c' = d.modify i fun _ => s' := by
  unfold look at h
  split at h
  · next told hp =>
    split at h
    · next t q htake =>
      have first : (c.queue.tasks.drop (c.passedOver i)).find? (c.suits s) = some t :=
        congrArg Prod.fst htake
      have rest : (c.queue.takeAfter (c.passedOver i) (c.suits s)).2 = q := congrArg Prod.snd htake
      rw [← rest] at h
      have others : ({ c with
        queue := (c.queue.takeAfter (c.passedOver i) (c.suits s)).2
        scan := none } : Coordinator).streams = c.streams := rfl
      exact moved others hs (.pick hp first) (Option.some.inj h)
    · next q htake =>
      have first : (c.queue.tasks.drop (c.passedOver i)).find? (c.suits s) = none :=
        congrArg Prod.fst htake
      have others : ({ c with scan := none } : Coordinator).streams = c.streams := rfl
      refine moved others hs (.park hp ?_) (Option.some.inj h)
      intro t ht
      exact Bool.eq_false_iff.mpr (List.find?_eq_none.mp first t ht)
  · cases h

/-- A loop does nothing but the moves: one case for every way through its code. -/
theorem apply_moves {m : Move} (hs : c.streams[i]? = some s) (h : m.apply c i s = some c') :
    ∃ s' d, Moves c i s m s' d ∧ c' = d.modify i fun _ => s' := by
  cases m with
  | check =>
    simp only [Move.apply, check] at h
    split at h
    · next hp =>
      split at h
      · next active => exact moved rfl hs (.resume hp active) (Option.some.inj h)
      · next stale => exact moved rfl hs (.hold hp (Bool.eq_false_iff.mpr stale)) (Option.some.inj h)
    · cases h
  | wake => exact wake_moves hs h
  | look => exact look_moves hs h
  | deliver =>
    simp only [Move.apply, deliver] at h
    split at h
    · next t hp =>
      split at h
      · next room => exact moved rfl hs (.deliver hp room) (Option.some.inj h)
      · cases h
    · cases h
  | giveUp =>
    simp only [Move.apply, giveUp] at h
    split at h
    · next t hp =>
      split at h
      · next why =>
        refine moved rfl hs (.giveUp hp ?_) (Option.some.inj h)
        simpa using why
      · cases h
    · cases h
  | putBack =>
    simp only [Move.apply, putBack] at h
    split at h
    · next t hp =>
      -- Putting back and leaving touch more than the stream, so that what they leave of the streams
      -- is said.
      have others : ({ c with queue := c.queue.requeue t, scan := none, telling := c.telling + 1 } :
        Coordinator).streams = c.streams := rfl
      exact moved others hs (.putBack hp) (Option.some.inj h)
    · cases h
  | explain =>
    simp only [Move.apply, explain] at h
    split at h
    · next hp => exact moved rfl hs (.explain hp) (Option.some.inj h)
    · cases h
  | leave =>
    simp only [Move.apply, leave] at h
    split at h
    · next e hp =>
      have others : ({ c with registry := c.registry.detach s.workerId i } : Coordinator).streams =
        c.streams := rfl
      exact moved others hs (.leave hp) (Option.some.inj h)
    · cases h
  | announce =>
    simp only [Move.apply, announce] at h
    split at h
    · next e hp =>
      -- The end is told where there is room and is silent elsewhere, and both are one move.
      cases room : s.hasRoom with
      | true =>
        refine moved rfl hs ?_ (Option.some.inj h)
        simp only [room, if_true]
        exact .notice hp room
      | false =>
        refine moved rfl hs ?_ (Option.some.inj h)
        simp only [room, Bool.false_eq_true, if_false]
        exact .silence hp room
    · cases h

end Moves

/-! ## Steps -/

/-- What a step makes of a coordinator. -/
inductive Happens (c : Coordinator) : Step → Coordinator → Prop
  | registered {g : Registration} {r : Registry}
      (h : c.registry.register g (Fresh.token c.supply) c.now = .ok r) :
      Happens c (.register g) { c with registry := r, supply := c.supply + 1 }
  | unregistered {g : Registration} {e : Failure}
      (h : c.registry.register g (Fresh.token c.supply) c.now = .error e) :
      Happens c (.register g) c
  | heartbeatBegun (id : String) :
      Happens c (.beginHeartbeat id)
        { c with heartbeats := c.heartbeats ++ [(id, c.registry.isActiveAt id c.now)] }
  | heartbeatMissing {place : Nat} {token : String} {status : WorkerStatus}
      {stats : Option WorkerStats} (none : c.heartbeats[place]? = none) :
      Happens c (.endHeartbeat place token status stats) c
  | heartbeatRefused {place : Nat} {token id : String} {status : WorkerStatus}
      {stats : Option WorkerStats} {wasActive : Bool} {e : Failure}
      (begun : c.heartbeats[place]? = some (id, wasActive))
      (h : c.registry.heartbeat id token status stats c.now = .error e) :
      Happens c (.endHeartbeat place token status stats)
        { c with heartbeats := c.heartbeats.eraseIdx place }
  | heartbeatTaken {place : Nat} {token id : String} {status old : WorkerStatus}
      {stats : Option WorkerStats} {wasActive : Bool} {r : Registry}
      (begun : c.heartbeats[place]? = some (id, wasActive))
      (h : c.registry.heartbeat id token status stats c.now = .ok (old, r)) :
      Happens c (.endHeartbeat place token status stats)
        { c with
          heartbeats := c.heartbeats.eraseIdx place
          registry := r
          telling := if wasActive then c.telling else c.telling + 1 }
  | opened {id token : String} {room : Nat} {announces : Bool} {w : Record} {r : Registry}
      (h : c.registry.attach id token c.streams.length = .ok (w, r)) :
      Happens c (.openStream id token room announces)
        { c with
          registry := r
          streams := c.streams ++
            [⟨id, w.registration.capabilities, room, [], true, announces, .opened⟩] }
  | unopened {id token : String} {room : Nat} {announces : Bool} {e : Failure}
      (h : c.registry.attach id token c.streams.length = .error e) :
      Happens c (.openStream id token room announces) c
  | fed (i : Nat) : Happens c (.feed i) (c.feed i)
  | read {i : Nat} {s : Stream} (h : c.streams[i]? = some s) :
      Happens c (.receive i) (c.modify i fun _ => s.receive.2)
  | unread {i : Nat} (h : c.streams[i]? = none) : Happens c (.receive i) c
  | closed (i : Nat) : Happens c (.closeStream i) (c.modify i Stream.close)
  | detached (id : String) (i : Nat) :
      Happens c (.detach id i) { c with registry := c.registry.detach id i }
  | queued {t : Task} (named : Text.isAllBlank t.id = false) (room : c.queue.size < c.queue.capacity) :
      Happens c (.queueTask t)
        { c with
          queue := { c.queue with tasks := c.queue.tasks ++ [t] }
          scan := none
          telling := c.telling + 1 }
  | unqueued {t : Task}
      (h : Text.isAllBlank t.id = true ∨ c.queue.capacity ≤ c.queue.size) :
      Happens c (.queueTask t) c
  | taken (p : Task → Bool) :
      Happens c (.take p) { c with queue := (c.queue.take p).2, scan := none }
  | reported {r : TaskResult} (named : Text.isAllBlank r.taskId = false)
      (signed : Text.isAllBlank r.workerId = false) :
      Happens c (.report r) { c with results := c.results.put r.taskId r }
  | unreported {r : TaskResult}
      (h : Text.isAllBlank r.taskId = true ∨ Text.isAllBlank r.workerId = true) :
      Happens c (.report r) c
  | pruned : Happens c .prune { c with registry := (c.registry.prune c.isOpen).2 }
  | told (h : c.telling ≠ 0) : Happens c .tell { c.tellLoops with telling := c.telling - 1 }
  | moved {i : Nat} {s s' : Stream} {m : Move} {d : Coordinator} (stream : c.streams[i]? = some s)
      (h : Moves c i s m s' d) : Happens c (.loop i m) (d.modify i fun _ => s')
  | passedOver {i : Nat} {s : Stream} {told : Bool} {t : Task} (stream : c.streams[i]? = some s)
      (phase : s.phase = .waiting ⟨false, told⟩) (here : c.queue.tasks[c.passedOver i]? = some t)
      (unsuited : c.suits s t = false) :
      Happens c (.passOver i) { c with scan := some ⟨i, c.passedOver i + 1⟩ }
  | shutDown : Happens c .beginShutdown { c with isShuttingDown := true }
  | backdated {id : String} {age : Int} {found : Bool} {r : Registry}
      (h : c.registry.backdate? id age c.now = some (found, r)) :
      Happens c (.backdate id age) { c with registry := r }
  | passed (time : Span) :
      Happens c (.pass time) { c with now := c.now.plus time, elapsed := c.elapsed + time }

/-- Nothing else happens in a step. -/
theorem happens_of_next {c c' : Coordinator} {st : Step} (h : c.next? st = some c') :
    Happens c st c' := by
  cases st with
  | register g =>
    cases h
    unfold register
    simp only
    split
    · next hr => exact .registered hr
    · next hr => exact .unregistered hr
  | beginHeartbeat id => cases h; exact .heartbeatBegun id
  | endHeartbeat place token status stats =>
    cases h
    unfold endHeartbeat
    split
    · next none => exact .heartbeatMissing none
    · next begun =>
      simp only
      split
      · next hr => exact .heartbeatRefused begun hr
      · next hr => exact .heartbeatTaken begun hr
  | openStream id token room announces =>
    cases h
    unfold openStream
    simp only
    split
    · next hr => exact .unopened hr
    · next hr => exact .opened hr
  | feed i => cases h; exact .fed i
  | receive i =>
    cases h
    unfold receive
    split
    · next none => exact .unread none
    · next hs => exact .read hs
  | closeStream i => cases h; exact .closed i
  | detach id i => cases h; exact .detached id i
  -- Two refusals, of the id and of the queue. Both leave the coordinator as it is.
  | queueTask t =>
    cases h
    unfold queueTask Queue.enqueue
    split
    · next blank => exact .unqueued (.inl blank)
    · next named =>
      split
      · next hq =>
        split at hq
        · cases hq
        · next room => cases hq; exact .queued (Bool.eq_false_iff.mpr named) (Nat.lt_of_not_le room)
      · next hq =>
        split at hq
        · next full => exact .unqueued (.inr full)
        · cases hq
  | take p => cases h; exact .taken p
  | report r =>
    cases h
    unfold report
    split
    · next blank => exact .unreported (.inl blank)
    · next named =>
      split
      · next blank => exact .unreported (.inr blank)
      · next signed => exact .reported (Bool.eq_false_iff.mpr named) (Bool.eq_false_iff.mpr signed)
  | prune => cases h; exact .pruned
  | tell =>
    simp only [next?, tell] at h
    split at h
    · cases h
    · next some => cases h; exact .told some
  | loop i m =>
    obtain ⟨s, hs, h⟩ := Option.bind_eq_some_iff.mp h
    -- What the loops can do is not taken apart here a second time.
    obtain ⟨s', d, move, rfl⟩ := apply_moves hs h
    exact .moved hs move
  | passOver i =>
    obtain ⟨s, hs, h⟩ := Option.bind_eq_some_iff.mp h
    unfold passOver at h
    split at h
    · next told t phase here =>
      split at h
      · cases h
      · next unsuited =>
        cases h
        exact .passedOver hs phase here (Bool.eq_false_iff.mpr unsuited)
    · cases h
  | beginShutdown => cases h; exact .shutDown
  | backdate id age =>
    obtain ⟨⟨found, r⟩, hr, rfl⟩ := Option.map_eq_some_iff.mp h
    exact .backdated hr
  | pass time => cases h; exact .passed time

/-! ## One stream -/

/-- What a step makes of a stream that is there. -/
inductive Stream.Changes (c : Coordinator) (i : Nat) (s : Stream) : Step → Stream → Prop
  | stays {st : Step} (untold : st ≠ .tell) (unmoved : ∀ m, st ≠ .loop i m) : Changes c i s st s
  | deaf (phase : ∀ w, s.phase ≠ .waiting w) : Changes c i s .tell s
  | told {w : Waiter} (phase : s.phase = .waiting w) :
      Changes c i s .tell { s with phase := .waiting w.tell }
  | fed (phase : s.phase = .opened) : Changes c i s (.feed i) { s with phase := .checking }
  | read {d : Delivery} {ds : List Delivery} (there : s.isOpen = true) (first : s.buffer = d :: ds) :
      Changes c i s (.receive i) { s with buffer := ds }
  | closed : Changes c i s (.closeStream i) s.close
  | moved {m : Move} {s' : Stream} {d : Coordinator} (h : Moves c i s m s' d) :
      Changes c i s (.loop i m) s'

section Changes

variable {c c' : Coordinator} {i : Nat} {s s' : Stream} {st : Step}

/-- A move changes one stream. -/
theorem Moves.streams {m : Move} {d : Coordinator} (h : Moves c i s m s' d) :
    d.streams = c.streams := by
  cases h <;> rfl

/-- Being told is a change of a stream. -/
theorem Stream.changes_tell : s.Changes c i .tell s.tell := by
  unfold tell
  split
  · next phase => exact .told phase
  · next other => exact .deaf other

/-- So is what its worker receives. -/
theorem Stream.changes_receive : s.Changes c i (.receive i) s.receive.2 := by
  unfold receive
  split
  · next there =>
    split
    · next first => exact .read there first
    · exact .stays nofun nofun
  · exact .stays nofun nofun

/-- A stream is new after a step that opened it, or comes of the stream of its number. -/
theorem stream_before (h : c.next? st = some c') (hs' : c'.streams[i]? = some s') :
    (∃ id token room announces w r, st = .openStream id token room announces ∧
      c.registry.attach id token c.streams.length = .ok (w, r) ∧ i = c.streams.length ∧
      s' = ⟨id, w.registration.capabilities, room, [], true, announces, .opened⟩) ∨
    ∃ s, c.streams[i]? = some s ∧ s.Changes c i st s' := by
  cases happens_of_next h with
  | @opened id token room announces w r attached =>
    -- The new stream stands behind all that were there.
    rcases Nat.lt_or_ge i c.streams.length with lt | ge
    · rw [List.getElem?_append_left lt] at hs'
      exact .inr ⟨s', hs', .stays nofun nofun⟩
    · rw [List.getElem?_append_right ge] at hs'
      obtain ⟨here, new⟩ := List.getElem?_eq_some_iff.mp hs'
      have only : i = c.streams.length := by
        simp only [List.length_singleton] at here
        omega
      refine .inl ⟨id, token, room, announces, w, r, rfl, attached, only, ?_⟩
      rw [← new]
      simp only [List.getElem_singleton]
  | fed j =>
    obtain ⟨s, hs, rfl⟩ := of_streams_modify hs'
    refine .inr ⟨s, hs, ?_⟩
    by_cases hij : j = i
    · subst hij
      simp only [if_true]
      split
      · next phase => exact .fed phase
      · exact .stays nofun nofun
    · simp only [hij, if_false]
      exact .stays nofun nofun
  | @read j t ht =>
    obtain ⟨s, hs, rfl⟩ := of_streams_modify hs'
    refine .inr ⟨s, hs, ?_⟩
    by_cases hij : j = i
    · subst hij
      rw [hs, Option.some.injEq] at ht
      simp only [if_true, ← ht]
      exact Stream.changes_receive
    · simp only [hij, if_false]
      exact .stays nofun nofun
  | closed j =>
    obtain ⟨s, hs, rfl⟩ := of_streams_modify hs'
    refine .inr ⟨s, hs, ?_⟩
    by_cases hij : j = i
    · subst hij
      simp only [if_true]
      exact .closed
    · simp only [hij, if_false]
      exact .stays nofun nofun
  | told =>
    simp only [tellLoops, List.getElem?_map, Option.map_eq_some_iff] at hs'
    obtain ⟨s, hs, rfl⟩ := hs'
    exact .inr ⟨s, hs, Stream.changes_tell⟩
  | @moved j t t' m d ht move =>
    obtain ⟨s, hs, rfl⟩ := of_streams_modify hs'
    -- A move may wake others or put back a task, but it writes to no stream but its own.
    rw [move.streams] at hs
    refine .inr ⟨s, hs, ?_⟩
    by_cases hij : j = i
    · subst hij
      rw [hs, Option.some.injEq] at ht
      subst ht
      simp only [if_true]
      exact .moved move
    · simp only [hij, if_false]
      exact .stays nofun fun m h => hij (Step.loop.inj h).1
  | _ => exact .inr ⟨s', hs', .stays nofun nofun⟩

/-- Only the opening of a stream changes how many there are. -/
theorem length_streams_next (h : c.next? st = some c')
    (hst : ∀ id token room announces, st ≠ .openStream id token room announces) :
    c'.streams.length = c.streams.length := by
  cases happens_of_next h with
  | opened => exact absurd rfl (hst _ _ _ _)
  | told => exact List.length_map ..
  | fed => exact length_streams_modify ..
  | read => exact length_streams_modify ..
  | closed => exact length_streams_modify ..
  | moved hs move => rw [length_streams_modify, move.streams]
  | _ => rfl

/-- No stream is ever taken away. -/
theorem length_streams_le_next (h : c.next? st = some c') :
    c.streams.length ≤ c'.streams.length := by
  cases st with
  | openStream id token room announces =>
    cases happens_of_next h with
    | opened =>
      rw [List.length_append]
      exact Nat.le_add_right ..
    | unopened => exact Nat.le_refl _
  | _ => exact Nat.le_of_eq (length_streams_next h nofun).symm

/-- A stream that is there stays there. -/
theorem stream_after (h : c.next? st = some c') (hs : c.streams[i]? = some s) :
    ∃ s', c'.streams[i]? = some s' ∧ s.Changes c i st s' := by
  have there := (List.getElem?_eq_some_iff.mp hs).1
  have still := Nat.lt_of_lt_of_le there (length_streams_le_next h)
  obtain ⟨s', hs'⟩ : ∃ s', c'.streams[i]? = some s' := ⟨_, List.getElem?_eq_getElem still⟩
  refine ⟨s', hs', ?_⟩
  rcases stream_before h hs' with ⟨_, _, _, _, _, _, _, _, new, _⟩ | ⟨r, hr, change⟩
  · exact absurd there (new ▸ Nat.lt_irrefl _)
  · cases hs.symm.trans hr
    exact change

/-- A coordinator that shuts down goes on doing so. -/
theorem shuttingDown_next (h : c.next? st = some c') (down : c.isShuttingDown = true) :
    c'.isShuttingDown = true := by
  cases happens_of_next h with
  | shutDown => rfl
  | moved hs move => cases move <;> exact down
  | _ => exact down

/-- A stream stays with the worker that it was opened for, and with what the worker could do then. -/
theorem Stream.Changes.owner (h : s.Changes c i st s') :
    s'.workerId = s.workerId ∧ s'.capabilities = s.capabilities := by
  cases h with
  | moved move => cases move <;> exact ⟨rfl, rfl⟩
  | _ => exact ⟨rfl, rfl⟩

end Changes

/-! ## Runs -/

/-- Every step of a schedule has a property in the state in which it is taken. -/
def Along (p : Coordinator → Step → Prop) : Coordinator → List Step → Prop
  | _, [] => True
  | c, st :: sts => p c st ∧ ∀ c', c.next? st = some c' → Along p c' sts

instance Along.decidable {p : Coordinator → Step → Prop} [∀ c st, Decidable (p c st)] :
    ∀ (c : Coordinator) (sts : List Step), Decidable (Along p c sts)
  | _, [] => isTrue trivial
  | c, st :: sts =>
    have : Decidable (∀ d, c.next? st = some d → Along p d sts) :=
      match h : c.next? st with
      | none => isTrue fun _ same => by cases same
      | some d =>
        have : Decidable (Along p d sts) := Along.decidable d sts
        decidable_of_iff (Along p d sts)
          ⟨fun along _ same => Option.some.inj same ▸ along, fun along => along d rfl⟩
    inferInstanceAs (Decidable (p c st ∧ _))

/-- What is written down along a schedule, when something is noted of every step. -/
def writtenAlong {α : Type} (note : α → Coordinator → Step → α) : Coordinator → α → List Step → α
  | _, l, [] => l
  | c, l, st :: sts =>
    match c.next? st with
    | some c' => writtenAlong note c' (note l c st) sts
    | none => l

/-- What every step keeps between a state and what is written down, a run keeps. -/
theorem writtenAlong_keeps {α : Type} {note : α → Coordinator → Step → α}
    {shows : α → Coordinator → Prop}
    (step : ∀ {l : α} {c c' : Coordinator} {st : Step}, shows l c → c.next? st = some c' →
      shows (note l c st) c')
    {sts : List Step} {c c' : Coordinator} (h : c.run? sts = some c') {l : α} (hl : shows l c) :
    shows (writtenAlong note c l sts) c' := by
  induction sts generalizing c l with
  | nil => cases h; exact hl
  | cons st sts ih =>
    obtain ⟨d, hd, h⟩ := Option.bind_eq_some_iff.mp h
    simp only [writtenAlong, hd]
    exact ih h (step hl hd)

/-- What every step keeps, when it has a property, a run keeps along which all steps have it. -/
theorem run?_keeps {p : Coordinator → Step → Prop} {inv : Coordinator → Prop}
    (step : ∀ {c c' : Coordinator} {st : Step}, inv c → p c st → c.next? st = some c' → inv c')
    {sts : List Step} {c c' : Coordinator} (hp : Along p c sts) (h : c.run? sts = some c')
    (hc : inv c) : inv c' := by
  induction sts generalizing c with
  | nil => cases h; exact hc
  | cons st sts ih =>
    obtain ⟨d, hd, h⟩ := Option.bind_eq_some_iff.mp h
    exact ih (hp.2 d hd) h (step hc hp.1 hd)

/-- A run goes through its parts one after another. -/
theorem run?_append (c : Coordinator) (ss ts : List Step) :
    c.run? (ss ++ ts) = (c.run? ss).bind fun d => d.run? ts :=
  List.foldlM_append ..

/-- One step more after a run with a marked step is one step more after that step. -/
theorem concat_behind (before between : List Step) (marked st : Step) :
    before ++ marked :: between ++ [st] = before ++ marked :: (between ++ [st]) := by
  rw [List.append_assoc, List.cons_append]

/-- It is one step more after the last of two marked steps. -/
theorem concat_behind_both (before between behind : List Step) (marked last st : Step) :
    before ++ marked :: (between ++ last :: behind) ++ [st] =
      before ++ marked :: (between ++ last :: (behind ++ [st])) := by
  rw [concat_behind, concat_behind]

/-- The last step of a run. -/
theorem run?_concat_eq_some {c c' : Coordinator} {ss : List Step} {st : Step}
    (h : c.run? (ss ++ [st]) = some c') : ∃ d, c.run? ss = some d ∧ d.next? st = some c' := by
  rw [run?_append] at h
  obtain ⟨d, hd, h⟩ := Option.bind_eq_some_iff.mp h
  obtain ⟨e, he, same⟩ := Option.bind_eq_some_iff.mp h
  cases same
  exact ⟨d, hd, he⟩

theorem along_true {sts : List Step} {c : Coordinator} : Along (fun _ _ => True) c sts := by
  induction sts generalizing c with
  | nil => trivial
  | cons st sts ih => exact ⟨trivial, fun _ _ => ih⟩

/-- What every step keeps, a run keeps. -/
theorem run?_always {inv : Coordinator → Prop}
    (step : ∀ {c c' : Coordinator} {st : Step}, inv c → c.next? st = some c' → inv c')
    {sts : List Step} {c c' : Coordinator} (h : c.run? sts = some c') (hc : inv c) : inv c' :=
  run?_keeps (fun hc _ => step hc) along_true h hc

/-- What is said of every step of a schedule is said along it. -/
theorem along_of_forall {p : Step → Prop} {sts : List Step} (h : ∀ st ∈ sts, p st)
    {c : Coordinator} : Along (fun _ st => p st) c sts := by
  induction sts generalizing c with
  | nil => trivial
  | cons st sts ih =>
    exact ⟨h st List.mem_cons_self, fun _ _ => ih fun r hr => h r (List.mem_cons_of_mem st hr)⟩

end WorkDispatch.Coordinator
