import WorkDispatch.Coordinator.Service
import WorkDispatch.Proofs.Coordinator.Tokens

/-!
# What a request leaves alone

A request that is refused leaves the registry as it was. One that is taken is about one worker, whose
record alone changes, and of that only what the request is about; but for a request to look after the
streams, which takes off every record a stream whose worker has gone away, and nothing else. `Confined`
has a line for each kind of request. No record is ever taken away, so that the workers that are known are
those that ever registered.

A coordinator asks its registry with some of its steps (`request?`). Such a step leaves the queue and the
results alone, and no other step touches the registry: `Separate`.
-/

set_option autoImplicit false

namespace WorkDispatch.Coordinator

namespace Registry

/-- The worker that a request is about. A look at all streams is about none. -/
def Request.worker? : Request → Option String
  | register g _ _ => some g.workerId
  | authenticate id _ | heartbeat id .. | attach id .. | detach id _ | backdate id .. => some id
  | prune _ => none

/-- Why a request may be refused. -/
inductive Request.Refusable (r : Registry) : Request → Prop
  | unnamed {g : Registration} {token : String} {now : Instant}
      (blank : Text.isAllBlank g.workerId = true ∨ Text.isAllBlank g.workerName = true) :
      Refusable r (.register g token now)
  | unknown {q : Request} {id token : String} (asks : q.credentials? = some (id, token))
      (none : r.get? id = none) : Refusable r q
  | foreign {q : Request} {id token : String} (asks : q.credentials? = some (id, token)) {w : Record}
      (known : r.get? id = some w) (other : w.token ≠ token) : Refusable r q

/-- What a request that is answered so may make of a registry. -/
structure Confined (r : Registry) (q : Request) (answer : Except Failure Answer) (r' : Registry) :
    Prop where
  refused : ∀ e, answer = .error e → r' = r ∧ q.Refusable r
  others : ∀ worker, q.worker? = some worker → ∀ id, id ≠ worker → r'.get? id = r.get? id
  kept : ∀ id, (r.get? id).isSome = true → (r'.get? id).isSome = true
  window : r'.window = r.window
  registered : ∀ g token now, q = .register g token now → answer.isOk = true →
    r'.get? g.workerId = some ⟨g, token, now, now, .idle, .none, none⟩
  shown : ∀ id token, q = .authenticate id token → r' = r
  heard : ∀ id token status stats now, q = .heartbeat id token status stats now →
    answer.isOk = true → ∃ w, r.get? id = some w ∧
      r'.get? id = some { w with lastHeartbeat := now, status, stats := stats.getD w.stats }
  attached : ∀ id token stream, q = .attach id token stream → answer.isOk = true →
    ∃ w, r.get? id = some w ∧ r'.get? id = some { w with stream := some stream }
  detached : ∀ id stream, q = .detach id stream → r'.get? id = (r.get? id).map fun w =>
    if w.stream = some stream then { w with stream := none } else w
  pruned : ∀ isOpen, q = .prune isOpen → ∀ id, r'.get? id = (r.get? id).map fun w =>
    if hasLeft isOpen w then { w with stream := none } else w
  backdated : ∀ id age now, q = .backdate id age now → r'.get? id = (r.get? id).map fun w =>
    { w with lastHeartbeat := (now.after? (-age)).getD w.lastHeartbeat }

variable {r : Registry} {q : Request} {id token : String}

/-! ## Refusals -/

/-- A worker and a token that do not belong together are a reason to refuse. -/
theorem refusable_of_authenticate {e : Failure} (asks : q.credentials? = some (id, token))
    (h : r.authenticate id token = .error e) : q.Refusable r := by
  unfold authenticate at h
  split at h
  · next none => exact .unknown asks none
  · next known =>
    split at h
    · cases h
    · next other => exact .foreign asks known other

/-- There is a reason for each refusal. -/
theorem refusable_of_error {e : Failure} (h : (r.serve q).1 = .error e) : q.Refusable r := by
  cases asks : q.credentials? with
  | some shown =>
    cases auth : r.authenticate shown.1 shown.2 with
    | error => exact refusable_of_authenticate asks auth
    | ok w =>
      have taken := (serve_of_credentials asks).2 w auth
      rw [h] at taken
      cases taken
  | none =>
    cases q with
    | register g token now =>
      by_cases id : Text.isAllBlank g.workerId = true
      · exact .unnamed (.inl id)
      · by_cases name : Text.isAllBlank g.workerName = true
        · exact .unnamed (.inr name)
        · simp only [serve, register, id, name, if_false, Bool.false_eq_true, reduceCtorEq] at h
    | authenticate | heartbeat | attach => cases asks
    | detach | prune => cases h
    | backdate id age now =>
      simp only [serve] at h
      split at h
      · cases h
      · cases h

/-! ## One request -/

/-- A visit of one worker does not register another. -/
theorem Visit.registers_of_ne {v : Visit} {worker : String}
    (own : v.request.worker? = some worker) (other : id ≠ worker) : v.registers id = false := by
  unfold registers
  split
  · cases own
    exact beq_false_of_ne (Ne.symm other)
  · rfl

/-- A visit of one worker amends no record of another. -/
theorem Visit.amend_of_ne {v : Visit} {worker : String} (own : v.request.worker? = some worker)
    (other : id ≠ worker) (w : Record) : v.amend id w = w := by
  unfold amend
  split
  · cases own; exact if_neg other
  · cases own; exact if_neg other
  · cases own; exact if_neg other
  · cases own
  · cases own; exact if_neg other
  · rfl

/-- A request does no more than it may. -/
theorem confined_serve (r : Registry) (q : Request) :
    Confined r q (r.serve q).1 (r.serve q).2 := by
  -- What every request has in common is read off `served`; the clauses about one operation look
  -- into it.
  obtain ⟨window, refused, after⟩ := r.served q
  constructor
  case refused => exact fun e h => ⟨refused e h, refusable_of_error h⟩
  case others =>
    intro worker own id other
    rw [after, Visit.record?_of_old (Visit.registers_of_ne own other),
      funext (Visit.amend_of_ne own other), Option.none_or, Option.map_id']
  case kept =>
    intro id known
    rw [after, Option.isSome_or, Option.isSome_map, known, Bool.or_true]
  case window => exact window
  case registered =>
    rintro g token now rfl ok
    cases h : r.register g token now with
    | error e => simp only [serve, h] at ok; cases ok
    | ok r' => simp only [serve, h, (get?_of_register h).2, if_true]
  case shown => rintro id token rfl; rfl
  case heard =>
    rintro id token status stats now rfl ok
    cases h : r.heartbeat id token status stats now with
    | error e => simp only [serve, h] at ok; cases ok
    | ok p =>
      obtain ⟨-, w, known, -, heard⟩ := get?_of_heartbeat h
      exact ⟨w, known, by simp only [serve, h, heard, if_true]⟩
  case attached =>
    rintro id token stream rfl ok
    cases h : r.attach id token stream with
    | error e => simp only [serve, h] at ok; cases ok
    | ok p =>
      obtain ⟨-, w, known, -, same, attached⟩ := get?_of_attach h
      exact ⟨w, known, by simp only [serve, h, attached, if_true, same]⟩
  case detached =>
    rintro id stream rfl
    exact (r.get?_detach_eq id stream id).trans (if_pos rfl)
  case pruned => rintro isOpen rfl; exact r.get?_prune isOpen
  case backdated =>
    rintro id age now rfl
    rw [after]
    exact congrArg (Option.map · (r.get? id)) (funext fun _ => if_pos rfl)

/-! ## Every run -/

/-- The workers that are known are those that registered and were not refused. -/
theorem isSome_get?_run (window : Span) (qs : List Request) (id : String) :
    ((Visits.run window qs).registry.get? id).isSome = true ↔
      id ∈ (Visits.run window qs).issued.map Prod.fst := by
  have badge := congrArg Option.isSome (Visits.current_run window qs id)
  rw [Option.isSome_map, Option.isSome_map] at badge
  rw [badge, Visits.latest?, List.lookup_isSome_iff, List.mem_map]
  exact exists_congr fun p => and_congr_right fun _ => beq_iff_eq.trans eq_comm

end Registry

/-! ## A coordinator -/

open Registry (Request Visits Confined)

/-- What a step asks of the registry. -/
def request? (c : Coordinator) : Step → Option Request
  | .register g => some (.register g (Fresh.token c.supply) c.now)
  | .endHeartbeat place token status stats =>
    c.heartbeats[place]?.map fun (id, _) => .heartbeat id token status stats c.now
  | .openStream id token _ _ => some (.attach id token c.streams.length)
  | .detach id stream => some (.detach id stream)
  | .prune => some (.prune c.isOpen)
  | .loop i .leave => c.streams[i]?.map fun s => .detach s.workerId i
  | .backdate id age => some (.backdate id age c.now)
  | _ => none

/-- What a step has to do with the registry, and with what is beside it. -/
structure Separate (c : Coordinator) (st : Step) (c' : Coordinator) : Prop where
  asked : ∀ q, c.request? st = some q →
    c'.registry = (c.registry.serve q).2 ∧ c'.queue = c.queue ∧ c'.results = c.results
  unasked : c.request? st = none → c'.registry = c.registry
  reported : ∀ r, st = .report r → c'.registry = c.registry ∧ c'.queue = c.queue

variable {c c' : Coordinator} {st : Step}

/-- A step that asks something of the registry does no more. -/
theorem asked_next (h : c.next? st = some c') {q : Request} (hq : c.request? st = some q) :
    c'.registry = (c.registry.serve q).2 ∧ c'.queue = c.queue ∧ c'.results = c.results := by
  cases happens_of_next h with
  | registered taken => cases hq; simp only [Registry.serve, taken, and_self]
  | unregistered refused => cases hq; simp only [Registry.serve, refused, and_self]
  | heartbeatMissing none => simp only [request?, none, Option.map_none, reduceCtorEq] at hq
  | heartbeatRefused begun refused =>
    simp only [request?, begun, Option.map_some, Option.some.injEq] at hq
    subst hq
    simp only [Registry.serve, refused, and_self]
  | heartbeatTaken begun taken =>
    simp only [request?, begun, Option.map_some, Option.some.injEq] at hq
    subst hq
    simp only [Registry.serve, taken, and_self]
  | opened taken => cases hq; simp only [Registry.serve, taken, and_self]
  | unopened refused => cases hq; simp only [Registry.serve, refused, and_self]
  | detached | pruned => cases hq; exact ⟨rfl, rfl, rfl⟩
  | backdated taken => cases hq; simp only [Registry.serve, taken, and_self]
  | moved hs move =>
    cases move with
    | leave =>
      simp only [request?, hs, Option.map_some, Option.some.injEq] at hq
      subst hq
      exact ⟨rfl, rfl, rfl⟩
    | _ => cases hq
  | _ => cases hq

/-- No other step touches the registry. -/
theorem unasked_next (h : c.next? st = some c') (none : c.request? st = none) :
    c'.registry = c.registry := by
  cases happens_of_next h with
  | registered | opened | detached | pruned | backdated => cases none
  | heartbeatTaken begun => simp only [request?, begun, Option.map_some, reduceCtorEq] at none
  | moved hs move =>
    cases move with
    | leave => simp only [request?, hs, Option.map_some, reduceCtorEq] at none
    | _ => rfl
  | _ => rfl

/-- Every step keeps what it does to the registry apart from all else. -/
theorem separate_next (h : c.next? st = some c') : Separate c st c' where
  asked _ hq := asked_next h hq
  unasked none := unasked_next h none
  reported := by
    rintro r rfl
    cases happens_of_next h <;> exact ⟨rfl, rfl⟩

/-- The registry of a coordinator is what the requests of its steps made of an empty one. -/
theorem exists_requests {settings : Settings.Coordinator} {now : Instant} {ss : List Step}
    (h : (start settings now).run? ss = some c) :
    ∃ qs, c.registry = (Visits.run settings.staleWorkerThreshold qs).registry := by
  have step {c c' : Coordinator} {st : Step}
      (hc : ∃ qs, c.registry = (Visits.run settings.staleWorkerThreshold qs).registry)
      (h : c.next? st = some c') :
      ∃ qs, c'.registry = (Visits.run settings.staleWorkerThreshold qs).registry := by
    obtain ⟨qs, same⟩ := hc
    cases hq : c.request? st with
    | none => exact ⟨qs, (unasked_next h hq).trans same⟩
    | some q =>
      refine ⟨qs ++ [q], (asked_next h hq).1.trans ?_⟩
      rw [same, Visits.run_append]
      rfl
  exact run?_always step h ⟨[], rfl⟩

/-- After any requests, every further one does to the registry no more than it may, and the workers that
are known are those that registered and were not refused. In a coordinator, what is asked of the registry
leaves the queue and the results as they are; what is reported, or told of the progress of a task, leaves
the registry and the queue as they are. -/
theorem requests_confined (window : Span) (qs : List Request) :
    let v := Visits.run window qs
    (∀ q, Confined v.registry q (v.registry.serve q).1 (v.registry.serve q).2) ∧
      (∀ id, (v.registry.get? id).isSome = true ↔ id ∈ v.issued.map Prod.fst) ∧
      ∀ c : Coordinator, (∀ st c', c.next? st = some c' → Separate c st c') ∧
        ∀ m, (Service.progress c m).2 = c :=
  ⟨fun q => Registry.confined_serve _ q, Registry.isSome_get?_run window qs,
    fun _ => ⟨fun _ _ => separate_next, fun _ => rfl⟩⟩

/-- A worker registers twice, and is refused a third registration for its blank name. -/
def twiceRegistered : List Request :=
  let worker (name : String) : Registration := ⟨"w", name, .ofList [.aiInsights], "1", .empty⟩
  [.register (worker "worker") "t-1" .epoch, .register (worker "worker") "t-2" .epoch,
    .register (worker " ") "t-3" .epoch]

/-- The first of the two tokens changes nothing, and the second nothing but the record of the worker. -/
theorem requests_confined_twiceRegistered :
    let r := (Visits.run (.ofSeconds 120) twiceRegistered).registry
    (r.serve (.heartbeat "w" "t-1" .busy none .epoch)).2 = r ∧
      (∃ w, r.get? "w" = some w ∧ (r.serve (.heartbeat "w" "t-2" .busy none .epoch)).2.get? "w" =
        some { w with lastHeartbeat := .epoch, status := .busy }) ∧
      ∀ id, id ≠ "w" → (r.serve (.attach "w" "t-2" 0)).2.get? id = r.get? id := by
  intro r
  obtain ⟨confined, -, -⟩ := requests_confined (.ofSeconds 120) twiceRegistered
  have refused : (r.serve (.heartbeat "w" "t-1" .busy none .epoch)).1.isOk = false := by
    decide +kernel
  have taken : (r.serve (.heartbeat "w" "t-2" .busy none .epoch)).1.isOk = true := by
    decide +kernel
  obtain ⟨e, he⟩ : ∃ e, (r.serve (.heartbeat "w" "t-1" .busy none .epoch)).1 = .error e := by
    cases h : (r.serve (.heartbeat "w" "t-1" .busy none .epoch)).1 with
    | error e => exact ⟨e, rfl⟩
    | ok => rw [h] at refused; cases refused
  exact ⟨((confined _).refused e he).1, (confined _).heard _ _ _ _ _ rfl taken,
    fun id other => (confined _).others "w" rfl id other⟩

end WorkDispatch.Coordinator
