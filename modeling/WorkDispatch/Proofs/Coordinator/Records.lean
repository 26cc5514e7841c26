import WorkDispatch.Proofs.Coordinator.Moves

/-!
# What a step can do to the record of a worker

Each operation of the registry changes the record of one worker, or takes streams off some. What it
does is said once for each, by what the registry then has under every id. `Record.Becomes` puts them
together: it lists what a step of a coordinator makes of the record of a worker, and `record_next`
says that nothing else happens to it. A record is never taken away.
-/

set_option autoImplicit false

namespace WorkDispatch.Coordinator

/-! ## Operations of the registry -/

namespace Registry

variable {r r' : Registry} {id token : String} {now : Instant}

/-- A registration makes a new record, in place of the old one if there was one, and touches no other. -/
theorem get?_of_register {g : Registration} (h : r.register g token now = .ok r') :
    r'.window = r.window ∧ ∀ j, r'.get? j =
      if j = g.workerId then some ⟨g, token, now, now, .idle, .none, none⟩ else r.get? j := by
  unfold register at h
  split at h
  · cases h
  · split at h
    · cases h
    · cases h
      exact ⟨rfl, fun j => Table.get?_put ..⟩

/-- Who is let in has shown the token of the record. -/
theorem authenticate_eq_ok {w : Record} (h : r.authenticate id token = .ok w) :
    r.get? id = some w ∧ w.token = token := by
  unfold authenticate at h
  split at h
  · cases h
  · next there =>
    split at h
    · next same => cases h; exact ⟨there, same⟩
    · cases h

/-- A heartbeat notes the time, the status and the figures in the record of its worker alone. -/
theorem get?_of_heartbeat {status old : WorkerStatus} {stats : Option WorkerStats}
    (h : r.heartbeat id token status stats now = .ok (old, r')) :
    r'.window = r.window ∧ ∃ w, r.get? id = some w ∧ w.token = token ∧ ∀ j, r'.get? j =
      if j = id then some { w with lastHeartbeat := now, status, stats := stats.getD w.stats }
      else r.get? j := by
  unfold heartbeat at h
  split at h
  · cases h
  · next w hw =>
    cases h
    obtain ⟨there, same⟩ := authenticate_eq_ok hw
    exact ⟨rfl, w, there, same, fun j => Table.get?_put ..⟩

/-- A stream is noted in the record of its worker alone. -/
theorem get?_of_attach {stream : Nat} {w' : Record}
    (h : r.attach id token stream = .ok (w', r')) :
    r'.window = r.window ∧ ∃ w, r.get? id = some w ∧ w.token = token ∧
      w' = { w with stream := some stream } ∧
      ∀ j, r'.get? j = if j = id then some w' else r.get? j := by
  unfold attach at h
  split at h
  · cases h
  · next w hw =>
    cases h
    obtain ⟨there, same⟩ := authenticate_eq_ok hw
    exact ⟨rfl, w, there, same, rfl, fun j => Table.get?_put ..⟩

/-- Giving a stream up takes it off the record of its worker, if that still has it. -/
theorem get?_detach_eq (r : Registry) (id : String) (stream : Nat) (j : String) :
    (r.detach id stream).get? j = if j = id then (r.get? j).map fun w =>
      if w.stream = some stream then { w with stream := none } else w else r.get? j := by
  by_cases own : j = id
  · subst own
    rw [if_pos rfl]
    unfold detach
    split
    · next w there =>
      rw [there, Option.map_some]
      split
      · simp only [get?, Table.get?_put, if_true]
      · exact there
    · next none => rw [none, Option.map_none]
  · rw [if_neg own]
    unfold detach
    split
    · split
      · simp only [get?, Table.get?_put, own, if_false]
      · rfl
    · rfl

theorem window_detach (r : Registry) (id : String) (stream : Nat) :
    (r.detach id stream).window = r.window := by
  unfold detach
  split
  · split
    · rfl
    · rfl
  · rfl

/-- Giving a stream up does no more to a record than taking its stream off it. -/
theorem get?_detach (r : Registry) (id : String) (stream : Nat) (j : String) :
    (r.detach id stream).get? j = r.get? j ∨
      ∃ w, r.get? j = some w ∧ (r.detach id stream).get? j = some { w with stream := none } := by
  rw [get?_detach_eq]
  split
  · cases r.get? j with
    | none => exact .inl rfl
    | some w =>
      rw [Option.map_some]
      split
      · exact .inr ⟨w, rfl, rfl⟩
      · exact .inl rfl
  · exact .inl rfl

/-- Streams that were left are taken out of all records. -/
theorem get?_prune (r : Registry) (isOpen : Nat → Bool) (j : String) :
    (r.prune isOpen).2.get? j = (r.get? j).map fun w =>
      if hasLeft isOpen w then { w with stream := none } else w :=
  Table.get?_mapValues ..

/-- A moved heartbeat changes one record, if there is one. -/
theorem get?_of_backdate? {age : Int} {found : Bool}
    (h : r.backdate? id age now = some (found, r')) :
    r' = r ∧ r.get? id = none ∨ ∃ w t, r.get? id = some w ∧ now.after? (-age) = some t ∧
      r'.window = r.window ∧
      ∀ j, r'.get? j = if j = id then some { w with lastHeartbeat := t } else r.get? j := by
  unfold backdate? at h
  split at h
  · next w there =>
    obtain ⟨t, ht, same⟩ := Option.map_eq_some_iff.mp h
    cases same
    exact .inr ⟨w, t, there, ht, rfl, fun j => Table.get?_put ..⟩
  · next none =>
    cases h
    exact .inl ⟨rfl, none⟩

end Registry

/-! ## One worker -/

/-- What a step makes of the record of a worker, if it has one. -/
inductive Record.Becomes (c : Coordinator) (id : String) : Step → Option Record → Option Record → Prop
  | stays {st : Step} (w : Option Record) : Becomes c id st w w
  | replaced {g : Registration} (own : g.workerId = id) (w : Option Record) :
      Becomes c id (.register g) w
        (some ⟨g, Fresh.token c.supply, c.now, c.now, .idle, .none, none⟩)
  | heard {place : Nat} {status old : WorkerStatus} {stats : Option WorkerStats} {wasActive : Bool}
      {r : Registry} (begun : c.heartbeats[place]? = some (id, wasActive)) (w : Record)
      (taken : c.registry.heartbeat id w.token status stats c.now = .ok (old, r)) :
      Becomes c id (.endHeartbeat place w.token status stats) (some w)
        (some { w with lastHeartbeat := c.now, status, stats := stats.getD w.stats })
  | attached {room : Nat} {announces : Bool} (w : Record) :
      Becomes c id (.openStream id w.token room announces) (some w)
        (some { w with stream := some c.streams.length })
  | detached {st : Step} (w : Record) : Becomes c id st (some w) (some { w with stream := none })
  | backdated {age : Int} {t : Instant} (ht : c.now.after? (-age) = some t) (w : Record) :
      Becomes c id (.backdate id age) (some w) (some { w with lastHeartbeat := t })

variable {c c' : Coordinator} {st : Step}

/-- Giving a stream up does no more to a record than taking the stream off it. -/
theorem becomes_detach (c : Coordinator) (st : Step) (worker : String) (stream : Nat) (id : String) :
    Record.Becomes c id st (c.registry.get? id) ((c.registry.detach worker stream).get? id) := by
  rcases c.registry.get?_detach worker stream id with same | ⟨w, there, off⟩
  · rw [same]
    exact .stays _
  · rw [there, off]
    exact .detached w

/-- Nothing else happens to a record. -/
theorem record_next (h : c.next? st = some c') (id : String) :
    Record.Becomes c id st (c.registry.get? id) (c'.registry.get? id) := by
  cases happens_of_next h with
  | @registered g r hr =>
    -- In each case the step is about one worker; the records of all others stay.
    simp only [(Registry.get?_of_register hr).2]
    by_cases own : id = g.workerId
    · rw [if_pos own]
      exact .replaced own.symm _
    · rw [if_neg own]
      exact .stays _
  | @heartbeatTaken place token worker status old stats wasActive r begun hr =>
    obtain ⟨-, w, there, rfl, after⟩ := Registry.get?_of_heartbeat hr
    simp only [after]
    by_cases own : id = worker
    · subst own
      rw [if_pos rfl, there]
      exact .heard begun w hr
    · rw [if_neg own]
      exact .stays _
  | @opened worker token room announces w' r hr =>
    obtain ⟨-, w, there, rfl, rfl, after⟩ := Registry.get?_of_attach hr
    simp only [after]
    by_cases own : id = worker
    · subst own
      rw [if_pos rfl, there]
      exact .attached w
    · rw [if_neg own]
      exact .stays _
  | detached worker i => exact becomes_detach c _ worker i id
  | pruned =>
    simp only [Registry.get?_prune]
    cases c.registry.get? id with
    | none => exact .stays _
    | some w =>
      rw [Option.map_some]
      split
      · exact .detached w
      · exact .stays _
  | @backdated worker age found r hr =>
    rcases Registry.get?_of_backdate? hr with ⟨rfl, -⟩ | ⟨w, t, there, ht, -, after⟩
    · exact .stays _
    · simp only [after]
      by_cases own : id = worker
      · subst own
        rw [if_pos rfl, there]
        exact .backdated ht w
      · rw [if_neg own]
        exact .stays _
  | moved hs move =>
    cases move with
    -- A loop touches the registry only when it leaves.
    | leave => exact becomes_detach c _ _ _ id
    | _ => exact .stays _
  | _ => exact .stays _

/-- The last heartbeat of a record is the one that it was, or has come with the step, or was moved. -/
theorem lastHeartbeat_next (h : c.next? st = some c') {id : String} {w' : Record}
    (hw' : c'.registry.get? id = some w') :
    (∃ w, c.registry.get? id = some w ∧ w'.lastHeartbeat = w.lastHeartbeat) ∨
      w'.lastHeartbeat = c.now ∨
      ∃ age, st = .backdate id age ∧ c.now.after? (-age) = some w'.lastHeartbeat := by
  have next := record_next h id
  generalize c.registry.get? id = w at next
  rw [hw'] at next
  cases next with
  | stays => exact .inl ⟨w', rfl, rfl⟩
  | replaced => exact .inr (.inl rfl)
  | heard => exact .inr (.inl rfl)
  | attached w => exact .inl ⟨w, rfl, rfl⟩
  | detached w => exact .inl ⟨w, rfl, rfl⟩
  | backdated moved => exact .inr (.inr ⟨_, rfl, moved⟩)

/-- A record is never taken away. -/
theorem isSome_record_next (h : c.next? st = some c') {id : String}
    (known : (c.registry.get? id).isSome = true) : (c'.registry.get? id).isSome = true := by
  have next := record_next h id
  generalize c.registry.get? id = w at next known
  generalize c'.registry.get? id = w' at next
  cases next with
  | stays => exact known
  | _ => rfl

/-- The window stays as it was set. -/
theorem window_next (h : c.next? st = some c') : c'.registry.window = c.registry.window := by
  cases happens_of_next h with
  | registered hr => exact (Registry.get?_of_register hr).1
  | heartbeatTaken _ hr => exact (Registry.get?_of_heartbeat hr).1
  | opened hr => exact (Registry.get?_of_attach hr).1
  | detached worker i => exact c.registry.window_detach worker i
  | backdated hr =>
    rcases Registry.get?_of_backdate? hr with ⟨rfl, -⟩ | ⟨_, _, _, _, same, _⟩
    · rfl
    · exact same
  | moved hs move =>
    cases move with
    | leave => exact c.registry.window_detach _ _
    | _ => rfl
  | _ => rfl

end WorkDispatch.Coordinator
