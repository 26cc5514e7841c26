import Mathlib.Data.List.Nodup
import WorkDispatch.Proofs.Coordinator.Serving

/-!
# Which stream is a worker's

A record holds the stream that was opened last, and any loop that ends, however late, has its own stream
given up. That an old loop does not take away the stream of a newer one, and that nothing else is lost, is
a matter of the whole history: the stream of a worker can be read off what the registry was asked, the
latest first (`Visit.follow`, `stream?_run`). `OpenedLast` names the request that counts, the latest one
that opened a stream for the worker since it registered.

That an old stream is not the one recorded now needs that no two streams have one number; nothing else
does.
-/

set_option autoImplicit false

namespace WorkDispatch.Coordinator.Registry

/-- The stream that is recorded for a worker. -/
def stream? (r : Registry) (id : String) : Option Nat := (r.get? id).bind Record.stream

/-- The worker that a request opened a stream for, and the stream, if it was not refused. -/
def Visit.opens? : Visit → Option (String × Nat)
  | ⟨.attach worker _ stream, .ok _⟩ => some (worker, stream)
  | _ => none

/-- The stream that a request opened for a worker. -/
def Visit.attached? (id : String) : Visit → Option Nat
  | ⟨.attach worker _ stream, .ok _⟩ => if worker = id then some stream else none
  | _ => none

/-- Whether a stream of a worker was given up with a request, or its worker was found to have gone. -/
def Visit.frees (id : String) (s : Nat) : Visit → Bool
  | ⟨.detach worker stream, _⟩ => worker == id && stream == s
  | ⟨.prune isOpen, _⟩ => !isOpen s
  | _ => false

/-- What becomes of the stream of a worker with a request. -/
def Visit.follow (id : String) (x : Visit) (stream : Option Nat) : Option Nat :=
  if x.registers id then none else (x.attached? id).or (stream.filter fun s => !x.frees id s)

variable {r r' : Registry} {x : Visit} {id : String} {s : Nat}

/-! ## One request -/

/-- A visit leaves a worker with a stream if it is the one that opens it. -/
theorem Visit.attached?_eq_some : x.attached? id = some s ↔ x.opens? = some (id, s) := by
  unfold attached? opens?
  split
  · next worker _ _ _ =>
    by_cases own : worker = id
    · simp only [own, if_true, Option.some.injEq, Prod.mk.injEq, true_and]
    · simp only [own, if_false, reduceCtorEq, Option.some.injEq, Prod.mk.injEq, false_and]
  · exact ⟨nofun, nofun⟩

/-- A visit that neither attaches a stream nor frees the one there is leaves it. -/
theorem Visit.follow_of_idle (old : x.registers id = false) (idle : x.attached? id = none)
    (kept : ∀ s, x.frees id s = false) (stream : Option Nat) : x.follow id stream = stream := by
  have same : (stream.filter fun s => !x.frees id s) = stream := by
    cases stream with
    | none => rfl
    | some s => exact Option.filter_some_pos (congrArg not (kept s))
  simp only [follow, old, idle, same, Bool.false_eq_true, if_false, Option.none_or]

/-- A record without its stream, if that is one of some, has what is left of it. -/
theorem stream_of_gone (w : Record) {p : Prop} [Decidable p] {gone : Nat → Bool}
    (h : p ↔ ∃ s, w.stream = some s ∧ gone s = true) :
    (if p then { w with stream := none } else w).stream = w.stream.filter fun s => !gone s := by
  cases hs : w.stream with
  | none =>
    have kept : ¬ p := by simp only [h, hs, reduceCtorEq, false_and, exists_false, not_false_eq_true]
    rw [if_neg kept, hs, Option.filter_none]
  | some s =>
    rw [Option.filter_some]
    cases left : gone s with
    | true => rw [if_pos (h.mpr ⟨s, hs, left⟩)]; rfl
    | false =>
      have kept : ¬ p := by
        rw [h]
        rintro ⟨t, ht, gone⟩
        cases hs.symm.trans ht
        rw [left] at gone
        cases gone
      rw [if_neg kept, hs]
      rfl

theorem stream_detached (w : Record) (s : Nat) :
    (if w.stream = some s then { w with stream := none } else w).stream =
      w.stream.filter fun t => !(s == t) :=
  stream_of_gone w ⟨fun own => ⟨s, own, beq_self_eq_true s⟩,
    fun ⟨_, there, same⟩ => there.trans (congrArg some (eq_of_beq same).symm)⟩

theorem stream_pruned (w : Record) (isOpen : Nat → Bool) :
    (if hasLeft isOpen w then { w with stream := none } else w).stream =
      w.stream.filter fun s => !!isOpen s := by
  refine stream_of_gone w ?_
  unfold hasLeft
  cases w.stream with
  | none => exact ⟨nofun, nofun⟩
  | some s => simp only [Option.some.injEq, exists_eq_left']

/-- The record that a worker has when it does not register keeps its stream as the request says. -/
theorem Visit.stream_amend (old : x.registers id = false) (w : Record) :
    (x.amend id w).stream = x.follow id w.stream := by
  obtain ⟨q, answer⟩ := x
  cases q with
  | register => rw [follow_of_idle old rfl fun _ => rfl]; rfl
  | authenticate => rw [follow_of_idle old rfl fun _ => rfl]; rfl
  | heartbeat =>
    rw [follow_of_idle old rfl fun _ => rfl]
    cases answer with
    | error => rfl
    | ok => simp only [amend]; split <;> rfl
  | attach worker _ stream =>
    cases answer with
    | error => rw [follow_of_idle old rfl fun _ => rfl]; rfl
    | ok =>
      by_cases own : id = worker
      · subst own
        simp only [amend, follow, registers, attached?, if_true, Bool.false_eq_true, if_false,
          Option.some_or]
      · rw [follow_of_idle old (if_neg (Ne.symm own)) fun _ => rfl]
        simp only [amend, own, if_false]
  | detach worker stream =>
    by_cases own : id = worker
    · subst own
      simp only [amend, if_true, stream_detached, follow, registers, attached?, frees,
        beq_self_eq_true, Bool.true_and, Bool.false_eq_true, if_false, Option.none_or]
    · rw [follow_of_idle old rfl]
      · simp only [amend, own, if_false]
      · intro s
        simp only [frees, beq_false_of_ne (Ne.symm own), Bool.false_and]
  | prune isOpen =>
    simp only [amend, stream_pruned, follow, registers, attached?, frees, Bool.false_eq_true, if_false,
      Option.none_or]
  | backdate =>
    rw [follow_of_idle old rfl fun _ => rfl]
    simp only [amend]
    split <;> rfl

/-- A stream is opened only for a worker that is known. -/
theorem isSome_get?_of_attached {q : Request}
    (opened : Visit.attached? id ⟨q, (r.serve q).1⟩ = some s) : (r.get? id).isSome = true := by
  cases q with
  | attach worker token stream =>
    cases h : r.attach worker token stream with
    | error => simp only [serve, h, Visit.attached?, reduceCtorEq] at opened
    | ok =>
      obtain ⟨-, w, there, -⟩ := get?_of_attach h
      simp only [serve, h, Visit.attached?, Option.ite_none_right_eq_some] at opened
      rw [← opened.1, there, Option.isSome_some]
  | _ => cases opened

/-- What a request makes of the stream of a worker is read off it and its answer. -/
theorem stream?_serve (r : Registry) (q : Request) (id : String) :
    (r.serve q).2.stream? id = Visit.follow id ⟨q, (r.serve q).1⟩ (r.stream? id) := by
  have record := (r.served q).record id
  cases registers : Visit.registers id ⟨q, (r.serve q).1⟩ with
  | true =>
    obtain ⟨w, new, blank⟩ := Visit.record?_of_registers registers
    rw [new, Option.some_or] at record
    rw [stream?, record, Option.bind_some, blank, Visit.follow, if_pos registers]
  | false =>
    rw [Visit.record?_of_old registers, Option.none_or] at record
    rw [stream?, stream?, record]
    cases known : r.get? id with
    | some w =>
      rw [Option.map_some, Option.bind_some, Option.bind_some, Visit.stream_amend registers]
    | none =>
      have unopened : Visit.attached? id ⟨q, (r.serve q).1⟩ = none := by
        refine Option.eq_none_iff_forall_ne_some.mpr fun s opened => ?_
        have there := isSome_get?_of_attached opened
        rw [known] at there
        cases there
      rw [Option.map_none, Option.bind_none, Visit.follow, registers, unopened]
      rfl

/-! ## Every run -/

/-- The stream of a worker is what the requests, one after the other, made of it. -/
theorem stream?_run (window : Span) (qs : List Request) (id : String) :
    (Visits.run window qs).registry.stream? id =
      (Visits.run window qs).log.foldr (Visit.follow id) none := by
  refine @Visits.run_keeps (fun v => v.registry.stream? id = v.log.foldr (Visit.follow id) none)
    window qs rfl ?_
  intro q _ v h
  rw [Visits.next, stream?_serve, h, List.foldr_cons]

/-- The streams that were opened, and for whom, the latest first. -/
def Visits.opened (v : Visits) : List (String × Nat) := v.log.filterMap Visit.opens?

/-- A request leaves the record of a worker and its stream in their places. -/
def Visit.Keeps (id : String) (y : Visit) : Prop :=
  y.registers id = false ∧ ∀ s, y.opens? ≠ some (id, s)

/-- A stream is the one that was opened last for a worker since the worker registered: after some older
requests, and before newer ones. -/
structure Visits.OpenedLast (v : Visits) (id : String) (s : Nat) (newer older : List Visit) : Prop where
  logged : ∃ x, v.log = newer ++ x :: older ∧ x.opens? = some (id, s)
  last : ∀ y ∈ newer, y.Keeps id

/-- What keeps the stream of a worker attaches none. -/
theorem Visit.attached?_of_keeps (h : x.Keeps id) : x.attached? id = none := by
  refine Option.eq_none_iff_forall_ne_some.mpr fun s opened => ?_
  exact h.2 s (attached?_eq_some.mp opened)

/-- What keeps the stream of a worker does so unless the stream was left. -/
theorem Visit.follow_of_keeps (h : x.Keeps id) (stream : Option Nat) :
    x.follow id stream = stream.filter fun s => !x.frees id s := by
  rw [follow, h.1, attached?_of_keeps h, Option.none_or, if_neg Bool.false_ne_true]

/-- Who opens a stream does not register. -/
theorem Visit.registers_of_opens {p : String × Nat} (h : x.opens? = some p) :
    x.registers id = false := by
  unfold opens? at h
  split at h
  · rfl
  · cases h

/-- Who opens a stream has that one afterwards, whatever was there before. -/
theorem Visit.follow_of_opens (h : x.opens? = some (id, s)) (stream : Option Nat) :
    x.follow id stream = some s := by
  rw [follow, registers_of_opens h, attached?_eq_some.mpr h, Option.some_or,
    if_neg Bool.false_ne_true]

/-- While the record and the stream are in place, the stream stays unless it is freed. -/
theorem foldr_follow {newer : List Visit} (kept : ∀ y ∈ newer, y.Keeps id) :
    newer.foldr (Visit.follow id) (some s) =
      if newer.any (Visit.frees id s) then none else some s := by
  induction newer with
  | nil => rfl
  | cons y newer ih =>
    rw [List.foldr_cons, ih fun y hy => kept y (List.mem_cons_of_mem _ hy),
      Visit.follow_of_keeps (kept y List.mem_cons_self), List.any_cons]
    cases newer.any (Visit.frees id s) with
    | true => rw [Bool.or_true, if_pos rfl, Option.filter_none]
    | false =>
      rw [Bool.or_false, if_neg Bool.false_ne_true, Option.filter_some]
      cases y.frees id s with
      | true => rfl
      | false => rfl

/-- A stream that is there at the end was opened, and kept ever since. -/
theorem exists_opens {log : List Visit} (h : log.foldr (Visit.follow id) none = some s) :
    ∃ newer x older, log = newer ++ x :: older ∧ x.opens? = some (id, s) ∧
      ∀ y ∈ newer, y.Keeps id := by
  induction log with
  | nil => cases h
  | cons x log ih =>
    rw [List.foldr_cons] at h
    cases registers : x.registers id with
    | true =>
      rw [Visit.follow, if_pos registers] at h
      cases h
    | false =>
      rw [Visit.follow, if_neg (by rw [registers]; exact Bool.false_ne_true)] at h
      cases attached : x.attached? id with
      | some t =>
        rw [attached, Option.some_or] at h
        exact ⟨[], x, log, rfl, Visit.attached?_eq_some.mp (attached.trans h), fun _ h => by cases h⟩
      | none =>
        rw [attached, Option.none_or] at h
        obtain ⟨newer, y, older, rfl, opens, kept⟩ := ih (Option.filter_eq_some_iff.mp h).1
        have keeps : x.Keeps id := by
          refine ⟨registers, fun t opens => ?_⟩
          rw [Visit.attached?_eq_some.mpr opens] at attached
          cases attached
        exact ⟨x :: newer, y, older, rfl, opens, List.forall_mem_cons.mpr ⟨keeps, kept⟩⟩

/-- A stream that is not recorded is not taken off the record. -/
theorem detach_of_ne (h : r.stream? id ≠ some s) : r.detach id s = r := by
  unfold detach
  split
  · next w there =>
    refine if_neg fun own => h ?_
    rw [stream?, there, Option.bind_some, own]
  · rfl

/-- As many streams are given up as records lose theirs. -/
theorem prune_count (r : Registry) (isOpen : Nat → Bool) :
    (r.prune isOpen).1 = (r.workers.keys.filter fun id =>
      (r.stream? id).isSome && ((r.prune isOpen).2.stream? id).isNone).length := by
  have left : ∀ e ∈ r.workers.entries, hasLeft isOpen e.2 =
      ((r.stream? e.1).isSome && ((r.prune isOpen).2.stream? e.1).isNone) := by
    intro e he
    have there : r.get? e.1 = some e.2 := Table.mem_entries.mp he
    rw [stream?, stream?, get?_prune, there, Option.map_some, Option.bind_some, Option.bind_some,
      stream_pruned, hasLeft]
    cases e.2.stream with
    | none => rfl
    | some s =>
      simp only [Option.isSome_some, Bool.true_and, Option.filter_some]
      cases isOpen s with
      | true => rfl
      | false => rfl
  unfold prune all Table.values Table.keys
  rw [List.filter_map, List.filter_map, List.length_map, List.length_map]
  exact congrArg List.length (List.filter_congr left)

/-- After any requests, the stream that is recorded for a worker is the one that was opened last for it
since it registered, unless that stream was given up since, or its worker found to have gone from it; then,
and if none was opened, there is none. Where no two streams have one number, giving up any that was opened
before changes nothing. To give up the streams whose workers have gone away is answered with the number of
workers that lose theirs. -/
theorem stream_by_history (window : Span) (qs : List Request) :
    let v := Visits.run window qs
    (∀ id s newer older, v.OpenedLast id s newer older →
        v.registry.stream? id = (if newer.any (Visit.frees id s) then none else some s) ∧
        ((v.opened.map Prod.snd).Nodup → ∀ t ∈ (older.filterMap Visit.opens?).map Prod.snd,
          v.registry.detach id t = v.registry)) ∧
      (∀ id, (∀ s newer older, ¬ v.OpenedLast id s newer older) → v.registry.stream? id = none) ∧
      ∀ isOpen, (v.registry.prune isOpen).1 = (v.registry.workers.keys.filter fun id =>
        (v.registry.stream? id).isSome && ((v.registry.prune isOpen).2.stream? id).isNone).length := by
  intro v
  refine ⟨fun id s newer older last => ?_, fun id never => ?_, v.registry.prune_count⟩
  · obtain ⟨⟨x, logged, opens⟩, kept⟩ := last
    have recorded : v.registry.stream? id = if newer.any (Visit.frees id s) then none else some s := by
      -- The visit that opened it makes what was before it irrelevant; only the newer ones are left
      -- to look at.
      rw [stream?_run, logged, List.foldr_append, List.foldr_cons, Visit.follow_of_opens opens,
        foldr_follow kept]
    refine ⟨recorded, fun distinct t before => detach_of_ne fun own => ?_⟩
    rw [recorded] at own
    split at own
    · cases own
    · cases own
      -- Here the numbers have to differ: giving up an older stream of the same number would give up
      -- this one.
      rw [Visits.opened, logged, List.filterMap_append, List.filterMap_cons, opens, List.map_append,
        List.map_cons] at distinct
      exact (List.nodup_cons.mp (List.nodup_append.mp distinct).2.1).1 before
  · refine Option.eq_none_iff_forall_ne_some.mpr fun s recorded => ?_
    rw [stream?_run] at recorded
    obtain ⟨newer, x, older, logged, opens, kept⟩ := exists_opens recorded
    exact never s newer older ⟨⟨x, logged, opens⟩, kept⟩

/-- A worker opens a stream and then another; the loop of the first one ends late. -/
def lateEnding : List Request :=
  [.register ⟨"w", "worker", .ofList [.aiInsights], "1", .empty⟩ "t-1" .epoch, .attach "w" "t-1" 0,
    .attach "w" "t-1" 1, .detach "w" 0]

/-- The late end does not touch the second stream. -/
theorem stream_by_history_lateEnding :
    let v := Visits.run (.ofSeconds 120) lateEnding
    v.registry.stream? "w" = some 1 ∧ v.registry.detach "w" 0 = v.registry ∧
      v.registry.stream? "v" = none := by
  intro v
  obtain ⟨last, never, -⟩ := stream_by_history (.ofSeconds 120) lateEnding
  have opened : v.opened = [("w", 1), ("w", 0)] := by decide +kernel
  have second : v.OpenedLast "w" 1 (v.log.take 1) (v.log.drop 2) := by
    refine ⟨⟨_, rfl, by decide +kernel⟩, fun y hy => ?_⟩
    obtain rfl := List.mem_singleton.mp hy
    exact ⟨rfl, fun _ h => by cases h⟩
  obtain ⟨recorded, late⟩ := last "w" 1 _ _ second
  refine ⟨recorded, late (by rw [opened]; decide) 0 (by decide +kernel), never "v" ?_⟩
  rintro s newer older ⟨⟨x, logged, opens⟩, -⟩
  have listed : ("v", s) ∈ v.opened :=
    List.mem_filterMap.mpr ⟨x, logged ▸ List.mem_append_right _ List.mem_cons_self, opens⟩
  rw [opened] at listed
  simp at listed

end WorkDispatch.Coordinator.Registry
