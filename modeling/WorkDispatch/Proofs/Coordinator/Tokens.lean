import Mathlib.Data.List.Nodup
import WorkDispatch.Proofs.Coordinator.Serving

/-!
# Whose token is taken

A worker that registers is given a token, and from then on this one and no other is taken from it. Which
token that is can be read off what the registry was asked and answered: `Visits.latest?` is the token of
the latest registration of a worker that was not refused. The registry keeps it in the worker's record,
where nothing but such a registration changes it (`badge_serve`).

`taken_iff_latest` says what becomes of a request for which a token is asked, after any requests: it is
taken if and only if the token is the latest one of the worker. That older tokens and those of others are
refused needs that no token is drawn twice; nothing else does.
-/

set_option autoImplicit false

namespace WorkDispatch.Coordinator

/-- Whom a record is of, and the token that is taken from it. -/
def Record.badge (w : Record) : String × String := (w.registration.workerId, w.token)

namespace Registry

variable {r : Registry} {id token : String}

/-! ## One request -/

/-- A worker without a record is not found. -/
theorem authenticate_of_none (h : r.get? id = none) :
    r.authenticate id token = .error (.notFound ("worker " ++ id ++ " not registered")) := by
  simp only [authenticate, h]

/-- One with a record is let in with its token, and with no other. -/
theorem authenticate_of_badge {t : String} (h : (r.get? id).map Record.badge = some (id, t)) :
    (token = t → ∃ w, r.authenticate id token = .ok w) ∧
      (token ≠ t → r.authenticate id token =
        .error (.unauthenticated ("invalid session token for worker " ++ id))) := by
  obtain ⟨w, there, badge⟩ := Option.map_eq_some_iff.mp h
  obtain ⟨own, rfl⟩ := Prod.mk.inj badge
  constructor
  · intro same
    exact ⟨w, by simp only [authenticate, there, same, if_true]⟩
  · intro other
    simp only [authenticate, there, own, Ne.symm other, if_false]

/-- A request for which a token is asked comes to what the token comes to. -/
theorem serve_of_credentials {q : Request} (hq : q.credentials? = some (id, token)) :
    (∀ e, r.authenticate id token = .error e → (r.serve q).1 = .error e) ∧
      (∀ w, r.authenticate id token = .ok w → (r.serve q).1.isOk = true) := by
  cases q with
  | authenticate id' token' =>
    cases hq
    constructor
    · intro e refused
      simp only [serve, refused, Except.map]
    · intro w taken
      simp only [serve, taken, Except.map, Except.isOk, Except.toBool]
  | heartbeat id' token' status stats now =>
    cases hq
    constructor
    · intro e refused
      simp only [serve, heartbeat, refused]
    · intro w taken
      simp only [serve, heartbeat, taken, Except.isOk, Except.toBool]
  | attach id' token' stream =>
    cases hq
    constructor
    · intro e refused
      simp only [serve, attach, refused]
    · intro w taken
      simp only [serve, attach, taken, Except.isOk, Except.toBool]
  | _ => cases hq

/-- The token that a request gave to a worker, if it was a registration and was not refused. -/
def Visit.issue? (v : Visit) : Option (String × String) :=
  match v.request, v.answer with
  | .register g _ _, .ok (.token t) => some (g.workerId, t)
  | _, _ => none

/-- No amendment changes the id or the token of a record. -/
theorem badge_amend (v : Visit) (id : String) (w : Record) : (v.amend id w).badge = w.badge := by
  unfold Visit.amend
  split
  · split <;> rfl
  · split <;> rfl
  · split
    · split <;> rfl
    · rfl
  · split <;> rfl
  · split <;> rfl
  · rfl

/-- Every badge stays as it was, but for that of a worker that registers and is not refused. -/
theorem badge_serve (r : Registry) (q : Request) (j : String) :
    ((r.serve q).2.get? j).map Record.badge =
      match Visit.issue? ⟨q, (r.serve q).1⟩ with
      | some (id, t) => if j = id then some (id, t) else (r.get? j).map Record.badge
      | none => (r.get? j).map Record.badge := by
  have kept (v : Visit) : ((r.get? j).map (v.amend j)).map Record.badge =
      (r.get? j).map Record.badge := by
    rw [Option.map_map]
    exact congrArg (Option.map · (r.get? j)) (funext (badge_amend v j))
  rw [(r.served q).record]
  cases q with
  | register g token now =>
    cases h : r.register g token now with
    | error e => simp only [serve, h, Visit.issue?, Visit.record?, Option.none_or, kept]
    | ok r' =>
      simp only [serve, h, Visit.issue?, Visit.record?]
      split
      · next own => rw [own]; rfl
      · rw [Option.none_or, kept]
  | _ => simp only [Visit.issue?, Visit.record?, Option.none_or, kept]

/-! ## Every run -/

namespace Visits

/-- The tokens that were given to workers, the latest first. -/
def issued (v : Visits) : List (String × String) := v.log.filterMap Visit.issue?

/-- The token of the latest registration of a worker that was not refused. -/
def latest? (v : Visits) (id : String) : Option String := v.issued.lookup id

/-- A request that issues a token makes it the latest of its worker. -/
theorem latest?_next (v : Visits) (q : Request) (j : String) :
    (v.next q).latest? j =
      match Visit.issue? ⟨q, (v.registry.serve q).1⟩ with
      | some (id, t) => if j = id then some t else v.latest? j
      | none => v.latest? j := by
  unfold latest? issued next
  rw [List.filterMap_cons]
  cases Visit.issue? ⟨q, (v.registry.serve q).1⟩ with
  | none => rfl
  | some p => exact Table.lookup_cons p _ j

/-- The badge of a worker is its own, with its latest token. -/
def Current (v : Visits) : Prop :=
  ∀ j, (v.registry.get? j).map Record.badge = (v.latest? j).map fun t => (j, t)

/-- A request leaves the records with the latest tokens. -/
theorem Current.next {v : Visits} (h : v.Current) (q : Request) : (v.next q).Current := by
  intro j
  have badge := badge_serve v.registry q j
  have latest := latest?_next v q j
  generalize Visit.issue? ⟨q, (v.registry.serve q).1⟩ = given at badge latest
  show ((v.registry.serve q).2.get? j).map Record.badge = _
  rw [badge, latest]
  cases given with
  | none => exact h j
  | some p =>
    by_cases own : j = p.1
    · simp only [own, if_true, Option.map_some]
    · simp only [own, if_false, h j]

/-- In every run the records have the latest tokens. -/
theorem current_run (window : Span) (qs : List Request) : (run window qs).Current :=
  run_keeps (fun _ => rfl) fun q _ _ h => h.next q

/-- The latest token of a worker is one that it was given and after which it was given no other. -/
theorem latest?_eq_some_iff {v : Visits} {id t : String} :
    v.latest? id = some t ↔
      ∃ newer older, v.issued = newer ++ (id, t) :: older ∧ ∀ p ∈ newer, p.1 ≠ id := by
  simp only [latest?, List.lookup_eq_some_iff, bne_iff_ne, ne_comm]

end Visits

open Visits in
/-- After any requests, one for which a token is asked is taken if and only if the worker has registered
and the token is the one that its latest registration was answered with. A worker that has not
registered is not known, and any other token is refused. Where no token was drawn twice, such a token is
every one that was given, to whomever, before the latest registration, and every one of another
worker. -/
theorem taken_iff_latest (window : Span) (qs : List Request) {q : Request} {id token : String}
    (hq : q.credentials? = some (id, token)) :
    let v := Visits.run window qs
    let answer := (v.registry.serve q).1
    (answer.isOk = true ↔ v.latest? id = some token) ∧
      (v.latest? id = none →
        answer = .error (.notFound ("worker " ++ id ++ " not registered"))) ∧
      (∀ t, v.latest? id = some t → token ≠ t →
        answer = .error (.unauthenticated ("invalid session token for worker " ++ id))) ∧
      ((v.issued.map Prod.snd).Nodup →
        (∀ newer older t, v.issued = newer ++ (id, t) :: older → (∀ p ∈ newer, p.1 ≠ id) →
          token ∈ older.map Prod.snd → answer.isOk = false) ∧
        ∀ other, other ≠ id → (other, token) ∈ v.issued → answer.isOk = false) := by
  intro v answer
  -- `Current` carries the whole proof: what the registry authenticates is what was issued last.
  have current : v.Current := current_run window qs
  obtain ⟨refused, taken⟩ := serve_of_credentials (r := v.registry) hq
  have unknown : v.latest? id = none →
      answer = .error (.notFound ("worker " ++ id ++ " not registered")) := by
    intro never
    have absent := current id
    rw [never] at absent
    exact refused _ (authenticate_of_none (Option.map_eq_none_iff.mp absent))
  have wrong : ∀ t, v.latest? id = some t → token ≠ t →
      answer = .error (.unauthenticated ("invalid session token for worker " ++ id)) := by
    intro t latest other
    have badge := current id
    rw [latest] at badge
    exact refused _ ((authenticate_of_badge badge).2 other)
  have right : answer.isOk = true ↔ v.latest? id = some token := by
    cases latest : v.latest? id with
    | none =>
      rw [unknown latest]
      exact ⟨nofun, nofun⟩
    | some t =>
      by_cases same : token = t
      · have badge := current id
        rw [latest] at badge
        obtain ⟨w, shown⟩ := (authenticate_of_badge badge).1 same
        exact ⟨fun _ => by rw [same], fun _ => taken w shown⟩
      · rw [wrong t latest same]
        exact ⟨nofun, fun h => absurd (Option.some.inj h).symm same⟩
  refine ⟨right, unknown, wrong, ?_⟩
  intro distinct
  constructor
  · intro newer older t issued none early
    -- Only here is it asked that no token was drawn twice: an old token would be right if it were
    -- drawn again.
    have latest : v.latest? id = some t := latest?_eq_some_iff.mpr ⟨newer, older, issued, none⟩
    rw [issued, List.map_append, List.map_cons] at distinct
    have once := (List.nodup_cons.mp (List.nodup_append.mp distinct).2.1).1
    have other : token ≠ t := by
      rintro rfl
      exact once early
    rw [wrong t latest other]
    rfl
  · intro other different given
    refine Bool.eq_false_iff.mpr fun ok => different ?_
    obtain ⟨newer, older, issued, -⟩ := latest?_eq_some_iff.mp (right.mp ok)
    have own : (id, token) ∈ v.issued := by
      rw [issued]
      exact List.mem_append_right _ List.mem_cons_self
    exact congrArg Prod.fst (List.inj_on_of_nodup_map distinct given own rfl)

/-- A worker registers, another one does, the first is refused a second registration for its blank name,
and then registers again. -/
def renewals : List Request :=
  let worker (id name : String) : Registration := ⟨id, name, .ofList [.aiInsights], "1", .empty⟩
  [.register (worker "w" "worker") "t-1" .epoch, .register (worker "v" "other") "t-2" .epoch,
    .register (worker "w" " ") "t-3" .epoch, .register (worker "w" "worker") "t-4" .epoch]

/-- Of the tokens of the worker the last one is taken, and for no other worker. -/
theorem taken_iff_latest_renewals :
    let r := (Visits.run (.ofSeconds 120) renewals).registry
    (r.serve (.heartbeat "w" "t-1" .busy none .epoch)).1 =
        .error (.unauthenticated "invalid session token for worker w") ∧
      (r.serve (.heartbeat "w" "t-2" .busy none .epoch)).1.isOk = false ∧
      (r.serve (.attach "w" "t-4" 0)).1.isOk = true ∧
      (r.serve (.authenticate "u" "t-4")).1 = .error (.notFound "worker u not registered") := by
  intro r
  have issued : (Visits.run (.ofSeconds 120) renewals).issued =
      [("w", "t-4"), ("v", "t-2"), ("w", "t-1")] := by decide +kernel
  have distinct : ((Visits.run (.ofSeconds 120) renewals).issued.map Prod.snd).Nodup := by
    rw [issued]
    decide
  have latest : (Visits.run (.ofSeconds 120) renewals).latest? "w" = some "t-4" := by
    rw [Visits.latest?, issued]
    rfl
  have unknown : (Visits.run (.ofSeconds 120) renewals).latest? "u" = none := by
    rw [Visits.latest?, issued]
    rfl
  obtain ⟨-, -, old, -⟩ := taken_iff_latest (.ofSeconds 120) renewals
    (q := .heartbeat "w" "t-1" .busy none .epoch) rfl
  obtain ⟨-, -, -, foreign⟩ := taken_iff_latest (.ofSeconds 120) renewals
    (q := .heartbeat "w" "t-2" .busy none .epoch) rfl
  obtain ⟨taken, -⟩ := taken_iff_latest (.ofSeconds 120) renewals (q := .attach "w" "t-4" 0) rfl
  obtain ⟨-, never, -⟩ := taken_iff_latest (.ofSeconds 120) renewals (q := .authenticate "u" "t-4") rfl
  refine ⟨old _ latest (by decide), ?_, taken.mpr latest, never unknown⟩
  exact (foreign distinct).2 "v" (by decide) (by rw [issued]; decide)

end Registry

end WorkDispatch.Coordinator
