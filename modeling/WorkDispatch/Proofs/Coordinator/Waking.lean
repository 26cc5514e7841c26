import WorkDispatch.Proofs.Coordinator.Looking
import WorkDispatch.Proofs.Coordinator.Records
import WorkDispatch.Proofs.Time.Passing

/-!
# Loops that are parked

A loop that finds nothing for its worker parks until it is told of a change, and whether a task suits
hangs on the queue, on the record of the worker and on the time of day. Whoever puts a task into the
queue tells the loops. Time only makes workers stale. What is left are the steps after which a stale
worker is active: `rouses` names those of which nobody tells the loops. A worker that registers again
is one of them, and a heartbeat that was begun while the worker was active is another.

`parked_loops_served` says that without such steps no loop waits in vain: when all changes were told
of, a parked loop for which there is a task was told, and its next two moves take a task.
`parked_loop_unserved` is a run in which a worker registers again and its loop waits beside its task.
-/

set_option autoImplicit false

namespace WorkDispatch.Coordinator

/-- The worker has a record and was not heard of within the window. -/
def isStale (c : Coordinator) (id : String) : Bool :=
  (c.registry.get? id).any fun w => !w.isActiveAt c.registry.window c.now

/-- A stale worker becomes active, and the loops are not told. -/
def rouses (c : Coordinator) : Step → Bool
  | .register g => c.isStale g.workerId
  | .endHeartbeat place _ _ _ =>
    match c.heartbeats[place]? with
    | some (id, wasActive) => wasActive && c.isStale id
    | none => false
  | .backdate id _ => c.isStale id
  | _ => false

variable {c c' : Coordinator} {st : Step}

/-! ## Workers become active only when they are roused -/

/-- No point in time that the coordinator knows lies in a leap second. -/
structure Timely (c : Coordinator) : Prop where
  clock : c.now.IsPlain
  heard : ∀ id w, c.registry.get? id = some w → w.lastHeartbeat.IsPlain

/-- Time stands still but for the step that lets some pass. -/
theorem now_next (h : c.next? st = some c') : c'.now = c.now ∨ ∃ time, c'.now = c.now.plus time := by
  cases happens_of_next h with
  | passed time => exact .inr ⟨time, rfl⟩
  | moved hs move => cases move <;> exact .inl rfl
  | _ => exact .inl rfl

/-- No step tells a time in a leap second. -/
theorem timely_next (hc : c.Timely) (h : c.next? st = some c') : c'.Timely := by
  refine ⟨?_, fun id w' hw' => ?_⟩
  · rcases now_next h with same | ⟨time, later⟩
    · rw [same]
      exact hc.clock
    · rw [later]
      exact Instant.isPlain_plus c.now time
  · rcases lastHeartbeat_next h hw' with ⟨w, hw, same⟩ | now | ⟨_, _, moved⟩
    · exact same ▸ hc.heard id w hw
    · exact now ▸ hc.clock
    · exact (Instant.after?_eq_some moved).1

/-- Time makes no worker active. -/
theorem isActiveAt_of_next (hc : c.Timely) (h : c.next? st = some c') {w : Record}
    (plain : w.lastHeartbeat.IsPlain) (active : w.isActiveAt c.registry.window c'.now = true) :
    w.isActiveAt c.registry.window c.now = true := by
  rcases now_next h with same | ⟨time, later⟩
  · rwa [same] at active
  · have aged := Instant.since_mono hc.clock plain time
    rw [later] at active
    simp only [Record.isActiveAt, decide_eq_true_eq] at active ⊢
    exact Int.lt_of_le_of_lt aged active

/-- When all changes were told of, a worker with a record is active only if it was before, or was
roused. -/
theorem isActiveAt_before (hc : c.Timely) (h : c.next? st = some c') (calm : c.rouses st = false)
    (quiet : c'.telling = 0) {id : String} (known : (c.registry.get? id).isSome = true)
    (active : c'.registry.isActiveAt id c'.now = true) :
    c.registry.isActiveAt id c.now = true := by
  obtain ⟨w, hw⟩ := Option.isSome_iff_exists.mp known
  obtain ⟨w', hw', active⟩ : ∃ w', c'.registry.get? id = some w' ∧
      w'.isActiveAt c.registry.window c'.now = true := by
    unfold Registry.isActiveAt at active
    split at active
    · next w' hw' => exact ⟨w', hw', window_next h ▸ active⟩
    · cases active
  have fresh : c.isStale id = false → c.registry.isActiveAt id c.now = true := by
    intro fresh
    simpa only [isStale, hw, Option.any_some, Bool.not_eq_false', Registry.isActiveAt] using fresh
  -- A record whose last heartbeat is as it was has only grown older.
  have older : w'.lastHeartbeat = w.lastHeartbeat → c.registry.isActiveAt id c.now = true := by
    intro same
    have active : w.isActiveAt c.registry.window c'.now = true := by
      rwa [Record.isActiveAt, same] at active
    simpa only [Registry.isActiveAt, hw] using isActiveAt_of_next hc h (hc.heard id w hw) active
  have next := record_next h id
  rw [hw, hw'] at next
  cases next with
  | stays => exact older rfl
  | attached => exact older rfl
  | detached => exact older rfl
  | replaced own => exact fresh (own ▸ calm)
  | backdated => exact fresh calm
  | heard begun _ taken =>
    cases happens_of_next h with
    | heartbeatMissing none => rw [none] at begun; cases begun
    | heartbeatRefused begun' refused =>
      rw [begun', Option.some.injEq, Prod.mk.injEq] at begun
      rw [begun.1, taken] at refused
      cases refused
    | @heartbeatTaken _ _ worker _ _ _ wasActive _ begun' =>
      rw [begun', Option.some.injEq, Prod.mk.injEq] at begun
      obtain ⟨rfl, rfl⟩ := begun
      -- The loops are told of a heartbeat unless the worker was active when it was begun.
      cases wasActive with
      | true => exact fresh (by simpa only [rouses, begun', Bool.true_and] using calm)
      | false => cases quiet

/-! ## Nobody waits in vain -/

/-- When all changes were told of, nothing has come into the queue. -/
theorem queue_before (h : c.next? st = some c') (quiet : c'.telling = 0) :
    (st = .tell ∨ c.telling = 0) ∧ ∀ t ∈ c'.queue.tasks, t ∈ c.queue.tasks := by
  cases happens_of_next h with
  | told => exact ⟨.inl rfl, fun t ht => ht⟩
  | queued => cases quiet
  | @heartbeatTaken _ _ _ _ _ _ wasActive =>
    cases wasActive with
    | true => exact ⟨.inr quiet, fun t ht => ht⟩
    | false => cases quiet
  | taken p => exact ⟨.inr quiet, fun t ht => List.mem_of_mem_eraseP ht⟩
  | moved hs move =>
    cases move with
    | pick => exact ⟨.inr quiet, fun t ht => (Queue.eraseAfter_sublist _ _ _).mem ht⟩
    | putBack => cases quiet
    | _ => exact ⟨.inr quiet, fun t ht => ht⟩
  | _ => exact ⟨.inr quiet, fun t ht => ht⟩

/-- A loop is parked and told of nothing because it was before, and was told of nothing, or because it
has looked, and there was nothing for it among the tasks that it had not passed over. -/
theorem Stream.Changes.parked {i : Nat} {s s' : Stream} (h : s.Changes c i st s')
    (parked : s'.phase = .waiting ⟨true, false⟩) :
    st ≠ .tell ∧ s.phase = .waiting ⟨true, false⟩ ∨
      st ≠ .tell ∧ s.phase = .waiting ⟨false, false⟩ ∧
        ∀ t ∈ c.queue.tasks.drop (c.passedOver i), c.suits s t = false := by
  cases h with
  | stays untold => exact .inl ⟨untold, parked⟩
  | deaf other => exact absurd parked (other _)
  | told => cases congrArg Waiter.told (Stream.Phase.waiting.inj parked)
  | fed => cases parked
  | read => exact .inl ⟨nofun, parked⟩
  | closed => exact .inl ⟨nofun, parked⟩
  | moved move =>
    cases move with
    | park phase nothing =>
      cases congrArg Waiter.told (Stream.Phase.waiting.inj parked)
      exact .inr ⟨nofun, phase, nothing⟩
    | leave =>
      simp only at parked
      split at parked
      · cases parked
      · cases parked
    | _ => cases parked

/-- When all changes were told of, a task that was not for a loop is still not for it. -/
theorem unsuited_next {i : Nat} {s s' : Stream} {t : Task} (hc : c.Timely) (h : c.next? st = some c')
    (calm : c.rouses st = false) (quiet : c'.telling = 0) (change : s.Changes c i st s')
    (known : (c.registry.get? s.workerId).isSome = true) (unsuited : c.suits s t = false) :
    c'.suits s' t = false := by
  unfold suits at unsuited ⊢
  rw [change.owner.1, change.owner.2]
  rw [Bool.and_eq_false_iff] at unsuited ⊢
  rcases unsuited with unable | stale
  · exact .inl unable
  · refine .inr (Bool.eq_false_iff.mpr fun active => ?_)
    rw [isActiveAt_before hc h calm quiet known active] at stale
    cases stale

/-- The workers of all streams have records, and a look under way is that of a loop at its look. When all
changes were told of, a loop that was told of nothing has passed over nothing that is for it, and there
is nothing for it at all when it is parked. -/
structure Attended (c : Coordinator) : Prop where
  timely : c.Timely
  known : ∀ (i : Nat) (s : Stream), c.streams[i]? = some s →
    (c.registry.get? s.workerId).isSome = true
  fits : ∀ n, c.scan = some n → n.Fits c
  passed : c.telling = 0 → ∀ (i : Nat) (s : Stream), c.streams[i]? = some s →
    s.phase = .waiting ⟨false, false⟩ → ∀ t ∈ c.queue.tasks.take (c.passedOver i), c.suits s t = false
  served : c.telling = 0 → ∀ (i : Nat) (s : Stream), c.streams[i]? = some s →
    s.phase = .waiting ⟨true, false⟩ → ∀ t ∈ c.queue.tasks, c.suits s t = false

/-- What a loop has passed over after a step it had passed over before, or it has just done so. -/
theorem Attended.passed_next (hc : c.Attended) (calm : c.rouses st = false) (h : c.next? st = some c')
    (quiet : c'.telling = 0) {i : Nat} {s' : Stream} (hs' : c'.streams[i]? = some s')
    (asking : s'.phase = .waiting ⟨false, false⟩) :
    ∀ t ∈ c'.queue.tasks.take (c'.passedOver i), c'.suits s' t = false := by
  intro t ht
  rcases Nat.eq_zero_or_pos (c'.passedOver i) with zero | some
  · rw [zero] at ht
    cases ht
  · obtain ⟨n, hn, rfl, -⟩ := scan_of_passedOver some
    obtain ⟨queue, goes⟩ := scan_next h hn
    rw [passedOver_of_scan hn, queue] at ht
    cases goes with
    -- The scan stands where it stood, so it is the worker who might have changed.
    | on before unlooked =>
      obtain ⟨s, told, hs, phase⟩ := (hc.fits n before).looks
      obtain ⟨r, hr, change⟩ := stream_after h hs
      cases hs'.symm.trans hr
      obtain ⟨told', still, deaf⟩ := change.looks phase (unlooked n.stream)
      cases asking.symm.trans still
      obtain ⟨rfl, untold⟩ := deaf rfl
      have quietBefore := (queue_before h quiet).1.resolve_left untold
      have unsuited := hc.passed quietBefore n.stream s hs phase t (by rwa [passedOver_of_scan before])
      exact unsuited_next hc.timely h calm quiet change (hc.known _ s hs) unsuited
    -- One task more has been passed over, and it did not suit at that moment.
    | @further s told u hs phase here unsuited passed =>
      obtain ⟨r, hr, change⟩ := stream_after h hs
      cases hs'.symm.trans hr
      obtain ⟨told', still, deaf⟩ := change.looks phase nofun
      cases asking.symm.trans still
      obtain ⟨rfl, untold⟩ := deaf rfl
      have quietBefore := (queue_before h quiet).1.resolve_left untold
      rw [passed, List.take_add_one, here, Option.toList_some, List.mem_append,
        List.mem_singleton] at ht
      refine unsuited_next hc.timely h calm quiet change (hc.known _ s hs) ?_
      rcases ht with before | rfl
      · exact hc.passed quietBefore n.stream s hs phase t before
      · exact unsuited

/-- As long as a step does not rouse a worker unannounced, suitable tasks stay attended to. -/
theorem attended_next (hc : c.Attended) (calm : c.rouses st = false) (h : c.next? st = some c') :
    c'.Attended := by
  refine ⟨timely_next hc.timely h, fun i s' hs' => ?_, fits_next hc.fits h,
    fun quiet i s' hs' asking => hc.passed_next calm h quiet hs' asking,
    fun quiet i s' hs' parked t ht => ?_⟩
  · rcases stream_before h hs' with ⟨id, token, room, announces, w, r, rfl, attached, rfl, rfl⟩ |
      ⟨s, hs, change⟩
    · obtain ⟨-, w, there, -⟩ := Registry.get?_of_attach attached
      exact isSome_record_next h (Option.isSome_iff_exists.mpr ⟨w, there⟩)
    · rw [change.owner.1]
      exact isSome_record_next h (hc.known i s hs)
  · rcases stream_before h hs' with ⟨_, _, _, _, _, _, _, _, _, rfl⟩ | ⟨s, hs, change⟩
    · cases parked
    · obtain ⟨told, kept⟩ := queue_before h quiet
      refine unsuited_next hc.timely h calm quiet change (hc.known i s hs) ?_
      rcases change.parked parked with ⟨untold, parked⟩ | ⟨untold, asking, nothing⟩
      · exact hc.served (told.resolve_left untold) i s hs parked t (kept t ht)
      · have all := kept t ht
        rw [← List.take_append_drop (c.passedOver i) c.queue.tasks] at all
        rcases List.mem_append.mp all with passed | left
        · exact hc.passed (told.resolve_left untold) i s hs asking t passed
        · exact nothing t left

/-- A coordinator that has just started has no loop that could miss anything. -/
theorem attended_start {settings : Settings.Coordinator} {now : Instant} (plain : now.IsPlain) :
    (start settings now).Attended where
  timely := ⟨plain, fun _ _ hw => by cases hw⟩
  known := fun _ _ hs => by cases hs
  fits := fun _ hn => by cases hn
  passed := fun _ _ _ hs => by cases hs
  served := fun _ _ _ hs => by cases hs

/-- In a run in which no worker is roused unannounced, every waiting loop is attended to. -/
theorem attended_run {settings : Settings.Coordinator} {now : Instant} {ss : List Step}
    (h : (start settings now).run? ss = some c) (plain : now.IsPlain)
    (calm : Along (fun c st => c.rouses st = false) (start settings now) ss) : c.Attended :=
  run?_keeps attended_next calm h (attended_start plain)

/-! ## Tasks are offered -/

/-- A loop that was told asks again, when its worker is there and the coordinator is not shut down. -/
theorem next?_wake_of_told {i : Nat} {s : Stream} (hs : c.streams[i]? = some s)
    (told : s.phase = .waiting ⟨true, true⟩) (there : s.isOpen = true)
    (up : c.isShuttingDown = false) :
    c.next? (.loop i .wake) = some (c.move i (.waiting .asking)) := by
  simp [next?, hs, Move.apply, wake, told, up, there, Waiter.asking]

/-- A loop that has asked takes the first task that suits of those that it has not passed over. -/
theorem look_takes {i : Nat} {s : Stream} {told : Bool} {t : Task} (hs : c.streams[i]? = some s)
    (asking : s.phase = .waiting ⟨false, told⟩)
    (first : (c.queue.tasks.drop (c.passedOver i)).find? (c.suits s) = some t) :
    ∃ c', c.next? (.loop i .look) = some c' ∧
      c'.streams[i]? = some { s with phase := .delivering t } := by
  let rest : Coordinator :=
    { c with queue := (c.queue.takeAfter (c.passedOver i) (c.suits s)).2, scan := none }
  have there : rest.streams[i]? = some s := hs
  refine ⟨rest.move i (.delivering t), ?_, streams_modify there⟩
  simp only [next?, hs, Option.bind_some, Move.apply, look, asking, Queue.takeAfter, first, rest]

/-- The two moves with which a loop that was told takes a task, when there is one. -/
theorem told_loop_takes {i : Nat} {s : Stream} {t : Task} (hs : c.streams[i]? = some s)
    (fits : ∀ n, c.scan = some n → n.Fits c) (told : s.phase = .waiting ⟨true, true⟩)
    (there : s.isOpen = true) (up : c.isShuttingDown = false)
    (first : c.queue.tasks.find? (c.suits s) = some t) :
    ∃ c', c.run? [.loop i .wake, .loop i .look] = some c' ∧
      c'.streams[i]? = some { s with phase := .delivering t } := by
  have asks := next?_wake_of_told hs told there up
  have asking : (c.move i (.waiting .asking)).streams[i]? =
      some { s with phase := .waiting .asking } := streams_modify hs
  have nothing : c.passedOver i = 0 :=
    passedOver_eq_zero fits hs fun _ other => by cases told.symm.trans other
  have anew : (c.move i (.waiting .asking)).passedOver i = 0 := nothing
  obtain ⟨c', looks, takes⟩ := look_takes asking rfl (by rwa [anew, List.drop_zero])
  refine ⟨c', ?_, takes⟩
  simp only [run?, List.foldlM_cons, List.foldlM_nil, asks, looks, Option.bind_eq_bind,
    Option.bind_some]
  rfl

/-- After any run in which no stale worker is roused, once all changes were told of, no loop is parked
beside a task that it may take unless it was told; and then it takes such a task with its next two
moves, if its worker is there and the coordinator is not shut down. -/
theorem parked_loops_served {settings : Settings.Coordinator} {now : Instant} {ss : List Step}
    (h : (start settings now).run? ss = some c) (plain : now.IsPlain)
    (calm : Along (fun c st => c.rouses st = false) (start settings now) ss)
    (quiet : c.telling = 0) {i : Nat} {s : Stream} {told : Bool} (hs : c.streams[i]? = some s)
    (parked : s.phase = .waiting ⟨true, told⟩) {t : Task} (ht : t ∈ c.queue.tasks)
    (suits : c.suits s t = true) :
    told = true ∧ (s.isOpen = true → c.isShuttingDown = false →
      ∃ c' t', c.run? [.loop i .wake, .loop i .look] = some c' ∧
        c.queue.tasks.find? (c.suits s) = some t' ∧
        c'.streams[i]? = some { s with phase := .delivering t' }) := by
  have attended := attended_run h plain calm
  have wasTold : told = true := by
    cases told with
    | true => rfl
    | false =>
      rw [attended.served quiet i s hs parked t ht] at suits
      cases suits
  subst wasTold
  refine ⟨rfl, fun there up => ?_⟩
  obtain ⟨t', first⟩ := Option.isSome_iff_exists.mp (List.find?_isSome.mpr ⟨t, ht, suits⟩)
  obtain ⟨c', runs, takes⟩ := told_loop_takes hs attended.fits parked there up first
  exact ⟨c', t', runs, first, takes⟩

/-- All changes were told of, and the loop of the first stream is parked beside a task for its worker,
which is there. -/
def parksBeside (told : Bool) (c : Coordinator) : Bool :=
  c.telling == 0 && !c.isShuttingDown && c.streams[0]?.any fun s =>
    decide (s.phase = .waiting ⟨true, told⟩) && s.isOpen && c.queue.tasks.any (c.suits s)

/-- What the check of the runs below says. -/
theorem exists_of_parksBeside {told : Bool} (h : c.parksBeside told = true) :
    c.telling = 0 ∧ c.isShuttingDown = false ∧ ∃ s, c.streams[0]? = some s ∧
      s.phase = .waiting ⟨true, told⟩ ∧ s.isOpen = true ∧
      ∃ t ∈ c.queue.tasks, c.suits s t = true := by
  simp only [parksBeside, Bool.and_eq_true, beq_iff_eq, Bool.not_eq_true', Option.any_eq_true,
    decide_eq_true_eq, List.any_eq_true] at h
  obtain ⟨⟨quiet, up⟩, s, hs, ⟨parked, there⟩, t, ht, suits⟩ := h
  exact ⟨quiet, up, s, hs, parked, there, t, ht, suits⟩

/-- A loop parks, its worker falls silent, a task comes in, and the loop looks and parks again. -/
def silence : List Step :=
  [.register ⟨"w", "worker", .empty, "1", .empty⟩, .openStream "w" (Fresh.token 0) 1 false, .feed 0,
    .loop 0 .check, .loop 0 .wake, .loop 0 .look, .pass (.ofSeconds 120),
    .queueTask (.plain "a" .cleanup [] .epoch), .tell, .loop 0 .wake, .loop 0 .look]

/-- After its silence the worker is heard of again. -/
def revival : List Step :=
  silence ++ [.beginHeartbeat "w", .endHeartbeat 0 (Fresh.token 0) .idle none, .tell]

/-- The loop is told of the heartbeat, and takes the task. -/
theorem parked_loops_served_revival :
    ∃ c s, (start .default .epoch).run? revival = some c ∧ c.streams[0]? = some s ∧
      s.phase = .waiting ⟨true, true⟩ ∧
      ∃ c' t', c.run? [.loop 0 .wake, .loop 0 .look] = some c' ∧
        c'.streams[0]? = some { s with phase := .delivering t' } := by
  have ends : ((start .default .epoch).run? revival).any (parksBeside true) = true := by
    decide +kernel
  obtain ⟨c, hc, parks⟩ := (Option.any_eq_true _ _).mp ends
  obtain ⟨quiet, up, s, hs, parked, there, t, ht, suits⟩ := exists_of_parksBeside parks
  have calm : Along (fun c st => c.rouses st = false) (start .default .epoch) revival := by
    decide +kernel
  have served := parked_loops_served hc (by decide) calm quiet hs parked ht suits
  obtain ⟨c', t', runs, -, takes⟩ := served.2 there up
  exact ⟨c, s, hc, hs, parked, c', t', runs, takes⟩

/-- After its silence the worker registers again. -/
def homecoming : List Step := silence ++ [.register ⟨"w", "worker", .empty, "1", .empty⟩]

/-- The worker is active and there, and nobody is about to tell its loop of the task that waits. -/
theorem parked_loop_unserved :
    ∃ c, (start .default .epoch).run? homecoming = some c ∧ c.telling = 0 ∧ c.isShuttingDown = false ∧
      ∃ s, c.streams[0]? = some s ∧ s.phase = .waiting ⟨true, false⟩ ∧ s.isOpen = true ∧
        ∃ t ∈ c.queue.tasks, c.suits s t = true := by
  have ends : ((start .default .epoch).run? homecoming).any (parksBeside false) = true := by
    decide +kernel
  obtain ⟨c, hc, parks⟩ := (Option.any_eq_true _ _).mp ends
  exact ⟨c, hc, exists_of_parksBeside parks⟩

-- A heartbeat that was begun before the silence wakes nobody either.
example : ((start .default .epoch).run? (silence.take 6 ++ [.beginHeartbeat "w"] ++ silence.drop 6 ++
    [.endHeartbeat 0 (Fresh.token 0) .idle none])).any (parksBeside false) = true := by
  decide +kernel

end WorkDispatch.Coordinator
