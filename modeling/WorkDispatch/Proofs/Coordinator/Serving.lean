import WorkDispatch.Coordinator.Requests
import WorkDispatch.Proofs.Coordinator.Records

/-!
# What comes of a request

A request and its answer say what becomes of every record: a worker that registers has a new one
(`Visit.record?`), and every other record that is there is amended (`Visit.amend`). `served` says that the
registry does just that, and nothing at all with a request that it refuses. What holds of the records after
any requests is therefore a look at these two, and the operations of the registry need not be opened again.
-/

set_option autoImplicit false

namespace WorkDispatch.Coordinator.Registry

/-- The record of a worker that registered with a request, if it was answered so. -/
def Visit.record? (id : String) : Visit → Option Record
  | ⟨.register g token now, .ok _⟩ =>
    if id = g.workerId then some ⟨g, token, now, now, .idle, .none, none⟩ else none
  | _ => none

/-- Whether a worker registered with a request and was not refused. -/
def Visit.registers (id : String) : Visit → Bool
  | ⟨.register g _ _, .ok _⟩ => g.workerId == id
  | _ => false

/-- What a request that was answered so makes of the record that a worker has. -/
def Visit.amend (id : String) : Visit → Record → Record
  | ⟨.heartbeat worker _ status stats now, .ok _⟩, w =>
    if id = worker then { w with lastHeartbeat := now, status, stats := stats.getD w.stats } else w
  | ⟨.attach worker _ stream, .ok _⟩, w => if id = worker then { w with stream := some stream } else w
  | ⟨.detach worker stream, _⟩, w =>
    if id = worker then if w.stream = some stream then { w with stream := none } else w else w
  | ⟨.prune isOpen, _⟩, w => if hasLeft isOpen w then { w with stream := none } else w
  | ⟨.backdate worker age now, _⟩, w =>
    if id = worker then { w with lastHeartbeat := (now.after? (-age)).getD w.lastHeartbeat } else w
  | _, w => w

/-- Who registers has a new record, without a stream. -/
theorem Visit.record?_of_registers {x : Visit} {id : String} (new : x.registers id = true) :
    ∃ w, x.record? id = some w ∧ w.stream = none := by
  unfold registers at new
  split at new
  · exact ⟨_, if_pos (eq_of_beq new).symm, rfl⟩
  · cases new

/-- Who does not register has none. -/
theorem Visit.record?_of_old {x : Visit} {id : String} (old : x.registers id = false) :
    x.record? id = none := by
  unfold record?
  split
  · exact if_neg (Ne.symm (ne_of_beq_false old))
  · rfl

/-- What a request that was answered so makes of a registry. -/
structure Served (r : Registry) (x : Visit) (r' : Registry) : Prop where
  window : r'.window = r.window
  refused : ∀ e, x.answer = .error e → r' = r
  record : ∀ id, r'.get? id = (x.record? id).or ((r.get? id).map (x.amend id))

variable {r r' : Registry} {x : Visit}

/-- Nothing changes with a request that gives nobody a record and leaves every record as it is. -/
theorem served_of_same (none : ∀ id, x.record? id = none) (same : ∀ id w, x.amend id w = w) :
    Served r x r where
  window := rfl
  refused _ _ := rfl
  record id := by rw [none, funext (same id), Option.none_or, Option.map_id']

/-- Only the record of one worker changes with a request that amends no other. -/
theorem served_of_worker {worker : String} {f : Record → Record} (window : r'.window = r.window)
    (taken : ∀ e, x.answer ≠ .error e) (none : ∀ id, x.record? id = none)
    (amend : ∀ id w, x.amend id w = if id = worker then f w else w)
    (own : r'.get? worker = (r.get? worker).map f)
    (others : ∀ id, id ≠ worker → r'.get? id = r.get? id) : Served r x r' where
  window := window
  refused e h := absurd h (taken e)
  record id := by
    rw [none, Option.none_or, funext (amend id)]
    by_cases same : id = worker
    · simp only [same, if_true, own]
    · simp only [same, if_false, Option.map_id', others id same]

/-- It is so when the record is put in the place of the one that was there. -/
theorem served_of_put {worker : String} {w : Record} {f : Record → Record}
    (window : r'.window = r.window) (taken : ∀ e, x.answer ≠ .error e)
    (none : ∀ id, x.record? id = none)
    (amend : ∀ id w, x.amend id w = if id = worker then f w else w) (there : r.get? worker = some w)
    (after : ∀ id, r'.get? id = if id = worker then some (f w) else r.get? id) : Served r x r' := by
  refine served_of_worker window taken none amend ?_ fun id other => ?_
  · rw [after, if_pos rfl, there, Option.map_some]
  · rw [after, if_neg other]

/-- A moved heartbeat is served as its visit says. -/
theorem served_backdate (r : Registry) (worker : String) (age : Int) (now : Instant) :
    Served r ⟨.backdate worker age now, (r.serve (.backdate worker age now)).1⟩
      (r.serve (.backdate worker age now)).2 := by
  cases there : r.get? worker with
  | none =>
    simp only [serve, backdate?, there]
    refine served_of_worker rfl nofun (fun _ => rfl) (fun _ _ => rfl) ?_ fun _ _ => rfl
    rw [there, Option.map_none]
  | some w =>
    cases moved : now.after? (-age) with
    | none =>
      simp only [serve, backdate?, there, moved, Option.map_none]
      refine served_of_same (fun _ => rfl) fun id w => ?_
      simp only [Visit.amend, moved, Option.getD_none, ite_self]
    | some t =>
      simp only [serve, backdate?, there, moved, Option.map_some]
      refine served_of_put rfl nofun (fun _ => rfl) (fun _ _ => rfl) there fun id => ?_
      rw [moved, Option.getD_some]
      exact Table.get?_put ..

/-- A request does to the registry what it and its answer say. -/
theorem served (r : Registry) (q : Request) : Served r ⟨q, (r.serve q).1⟩ (r.serve q).2 := by
  cases q with
  | register g token now =>
    cases h : r.register g token now with
    | error =>
      simp only [serve, h]
      exact served_of_same (fun _ => rfl) fun _ _ => rfl
    | ok =>
      simp only [serve, h]
      obtain ⟨window, after⟩ := get?_of_register h
      refine ⟨window, nofun, fun id => ?_⟩
      simp only [after, Visit.record?]
      split
      · rfl
      · exact Option.map_id'.symm
  | authenticate => exact served_of_same (fun _ => rfl) fun _ _ => rfl
  | heartbeat worker token status stats now =>
    cases h : r.heartbeat worker token status stats now with
    | error =>
      simp only [serve, h]
      exact served_of_same (fun _ => rfl) fun _ _ => rfl
    | ok =>
      simp only [serve, h]
      obtain ⟨window, w, there, -, after⟩ := get?_of_heartbeat h
      exact served_of_put window nofun (fun _ => rfl) (fun _ _ => rfl) there after
  | attach worker token stream =>
    cases h : r.attach worker token stream with
    | error =>
      simp only [serve, h]
      exact served_of_same (fun _ => rfl) fun _ _ => rfl
    | ok =>
      simp only [serve, h]
      obtain ⟨window, w, there, -, attached, after⟩ := get?_of_attach h
      rw [attached] at after
      exact served_of_put window nofun (fun _ => rfl) (fun _ _ => rfl) there after
  | detach worker stream =>
    refine served_of_worker (r.window_detach worker stream) nofun (fun _ => rfl) (fun _ _ => rfl) ?_ ?_
    · exact (r.get?_detach_eq worker stream worker).trans (if_pos rfl)
    · exact fun id other => (r.get?_detach_eq worker stream id).trans (if_neg other)
  | prune isOpen => exact ⟨rfl, nofun, r.get?_prune isOpen⟩
  | backdate worker age now => exact r.served_backdate worker age now

/-! ## Every run -/

/-- What every request keeps, any requests keep. -/
theorem Visits.run_keeps {inv : Visits → Prop} {window : Span} {qs : List Request}
    (start : inv (blank window)) (step : ∀ q ∈ qs, ∀ v, inv v → inv (v.next q)) :
    inv (run window qs) := by
  unfold run
  generalize blank window = v at start ⊢
  induction qs generalizing v with
  | nil => exact start
  | cons q qs ih =>
    exact ih (fun q hq => step q (List.mem_cons_of_mem _ hq)) (v.next q)
      (step q List.mem_cons_self v start)

/-- Requests are served one after another. -/
theorem Visits.run_append (window : Span) (qs later : List Request) :
    run window (qs ++ later) = later.foldl next (run window qs) :=
  List.foldl_append

end WorkDispatch.Coordinator.Registry
