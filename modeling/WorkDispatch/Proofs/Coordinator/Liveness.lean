import Mathlib.Algebra.BigOperators.Group.Finset.Basic
import Mathlib.Algebra.Order.Ring.Nat
import Mathlib.Data.List.Dedup
import WorkDispatch.Proofs.Coordinator.Frames
import WorkDispatch.Proofs.Labels
import WorkDispatch.Proofs.Time.Passing

/-!
# Who counts as active

Whether a worker is active is asked in four ways: by the list of those who are, by the list of those who
are not, for one worker, and by the health check, which looks at copies of the records. They agree at any
time (`Registry.Agree`), and what the health check counts is what is there (`Health.Describes`).

A worker that is stale and is not heard of stays stale as time passes (`stale_unheard`), but not over a
leap second, which counts on the day in which it lies and no longer after midnight
(`stale_worker_active_again`). `Later` says when time has passed for certain since a heartbeat. A clock
tells no leap seconds, and as long as one told the times of all heartbeats, none lies in one
(`isPlain_run`).
-/

set_option autoImplicit false

namespace WorkDispatch.Coordinator

/-- The worker that a record is of. -/
def Record.workerId (w : Record) : String := w.registration.workerId

/-- There is nothing between active and stale. -/
theorem Record.isStaleAt_eq_not (w : Record) (window : Span) (now : Instant) :
    w.isStaleAt window now = !w.isActiveAt window now := by
  simp only [isStaleAt, isActiveAt, ← decide_not, Int.not_lt]

namespace Registry

variable {r : Registry} {id : String}

/-! ## The views -/

/-- Every record is kept under the id of its worker. -/
def Owned (r : Registry) : Prop := ∀ id w, r.get? id = some w → w.workerId = id

/-- In every run each record is that of the worker whose id it is kept under. -/
theorem owned_run (window : Span) (qs : List Request) : (Visits.run window qs).registry.Owned := by
  intro id w there
  have badge := Visits.current_run window qs id
  rw [there, Option.map_some] at badge
  obtain ⟨t, -, own⟩ := Option.map_eq_some_iff.mp badge.symm
  exact congrArg Prod.fst own.symm

/-- No worker has two records. -/
theorem Owned.nodup (h : r.Owned) : (r.all.map Record.workerId).Nodup := by
  have keys : r.all.map Record.workerId = r.workers.keys := by
    unfold all Table.values Table.keys
    rw [List.map_map]
    exact List.map_congr_left fun e he => h e.1 e.2 (Table.mem_entries.mp he)
  rw [keys]
  exact r.workers.nodup

/-- A record is in the list if it is the one kept for its worker. -/
theorem Owned.mem_all (h : r.Owned) {w : Record} : w ∈ r.all ↔ r.get? w.workerId = some w := by
  constructor
  · intro hw
    obtain ⟨e, he, rfl⟩ := List.mem_map.mp hw
    have there : r.get? e.1 = some e.2 := Table.mem_entries.mp he
    rwa [h e.1 e.2 there]
  · intro there
    exact List.mem_map.mpr ⟨(w.workerId, w), Table.mem_entries.mpr there, rfl⟩

/-- A worker is in a view of the records if its own has what the view asks for. -/
theorem Owned.mem_view (h : r.Owned) {p : Record → Bool} :
    id ∈ (r.all.filter p).map Record.workerId ↔ ∃ w, r.get? id = some w ∧ p w = true := by
  simp only [List.mem_map, List.mem_filter, h.mem_all]
  constructor
  · rintro ⟨w, ⟨there, hp⟩, rfl⟩
    exact ⟨w, there, hp⟩
  · rintro ⟨w, there, hp⟩
    obtain rfl := h id w there
    exact ⟨w, ⟨there, hp⟩, rfl⟩

/-- How many workers are in a status. -/
def count (r : Registry) (s : WorkerStatus) : Nat := (r.all.filter fun w => w.status == s).length

/-- How the views agree at a time. -/
structure Agree (r : Registry) (now : Instant) : Prop where
  /-- The active and the stale workers are all workers, … -/
  parts : (r.activeAt now ++ r.staleAt now).Perm r.all
  /-- … each in one of the views, and once. -/
  once : ((r.activeAt now ++ r.staleAt now).map Record.workerId).Nodup
  isActive_iff : ∀ id, r.isActiveAt id now = true ↔ id ∈ (r.activeAt now).map Record.workerId

/-- The views of records that are kept under their owners' ids agree. -/
theorem Owned.agree (h : r.Owned) (now : Instant) : Agree r now := by
  have parts : (r.activeAt now ++ r.staleAt now).Perm r.all := by
    simp only [activeAt, staleAt, Record.isStaleAt_eq_not]
    exact List.filter_append_perm _ _
  refine ⟨parts, (parts.map _).nodup_iff.mpr h.nodup, fun id => ?_⟩
  rw [activeAt, h.mem_view, isActiveAt]
  cases r.get? id with
  | none => simp only [Bool.false_eq_true, reduceCtorEq, false_and, exists_false]
  | some w => simp only [Option.some.injEq, exists_eq_left']

end Registry

/-! ## The health check -/

open Registry (Request Visit Visits Owned Agree)

/-- What a health check at a time says of workers of which all that was asked is known. -/
structure Health.Describes (h : Health) (v : Visits) (now : Instant) : Prop where
  total : h.totalWorkers = (v.issued.map Prod.fst).dedup.length
  active : h.healthyWorkers = (v.registry.activeAt now).length
  sum : (h.statusCounts.map Prod.snd).sum = h.totalWorkers
  counts : ∀ s n, (s, n) ∈ h.statusCounts ↔ n = v.registry.count s ∧ n ≠ 0
  distinct : (h.statusCounts.map Prod.fst).Nodup
  noWorkers : h.status = .noWorkers ↔ v.issued = []
  degraded : h.status = .degraded ↔ v.issued ≠ [] ∧ v.registry.activeAt now = []
  healthy : h.status = .healthy ↔ v.issued ≠ [] ∧ v.registry.activeAt now ≠ []
  /-- Every line of the flat view is there; none took the place of another. -/
  services : h.services.entries.Perm h.lines

/-- The members of a vocabulary that has them all, each counted in a list, come to its length. -/
theorem sum_length_filter {α β : Type} [DecidableEq β] {f : α → β} {ss : List β} (nodup : ss.Nodup)
    (l : List α) (all : ∀ a ∈ l, f a ∈ ss) :
    (ss.map fun s => (l.filter fun a => f a == s).length).sum = l.length := by
  have counts (s : β) : (l.filter fun a => f a == s).length = (l.map f).count s := by
    rw [List.count, List.countP_map, List.countP_eq_length_filter]
    rfl
  have members : ∀ b ∈ (l.map f : Multiset β), b ∈ ss.toFinset := by
    intro b hb
    obtain ⟨a, ha, rfl⟩ := List.mem_map.mp (Multiset.mem_coe.mp hb)
    exact List.mem_toFinset.mpr (all a ha)
  calc (ss.map fun s => (l.filter fun a => f a == s).length).sum
      = (ss.map fun s => (l.map f).count s).sum := by simp only [counts]
    _ = ∑ s ∈ ss.toFinset, (l.map f : Multiset β).count s := by
      rw [List.sum_toFinset _ nodup]
      simp only [Multiset.coe_count]
    _ = l.length := by
      rw [Multiset.sum_count_eq_card members, Multiset.coe_card, List.length_map]

/-- Entries of zero do not count. -/
theorem sum_filter_ne_zero {β : Type} (ps : List (β × Nat)) :
    ((ps.filter fun p => p.2 != 0).map Prod.snd).sum = (ps.map Prod.snd).sum := by
  induction ps with
  | nil => rfl
  | cons p ps ih =>
    rw [List.filter_cons]
    split
    · rw [List.map_cons, List.map_cons, List.sum_cons, List.sum_cons, ih]
    · next none =>
      have zero : p.2 = 0 := by simpa using none
      rw [ih, List.map_cons, List.sum_cons, zero, Nat.zero_add]

theorem nodup_all_status : (Named.all (α := WorkerStatus)).Nodup := by decide

theorem mem_all_status (s : WorkerStatus) : s ∈ Named.all (α := WorkerStatus) := by
  cases s <;> decide

/-- The lines of the flat view are under different keys. -/
theorem Health.nodup_lines {h : Health}
    (counts : (h.statusCounts.map Prod.fst).Sublist (Named.all (α := WorkerStatus))) :
    (h.lines.map Prod.fst).Nodup := by
  have keys : h.lines.map Prod.fst = ["coordinator", "workers_total", "workers_healthy"] ++
      (h.statusCounts.map Prod.fst).map countName ++ ["task_queue"] := by
    simp only [lines, List.map_append, List.map_map]
    rfl
  have all : (["coordinator", "workers_total", "workers_healthy"] ++
      (Named.all (α := WorkerStatus)).map countName ++ ["task_queue"]).Nodup := by
    decide +kernel
  rw [keys]
  exact (((counts.map countName).append_left _).append_right _).nodup all

/-- What is counted among the copies of records is counted among the records. -/
theorem length_filter_snapshots (c : Coordinator) (p : WorkerSnapshot → Bool) :
    ((c.registry.all.map c.snapshot).filter p).length =
      (c.registry.all.filter fun w => p (c.snapshot w)).length := by
  rw [List.filter_map, List.length_map]
  rfl

/-- There are as many records as workers that ever registered. -/
theorem length_all_run (window : Span) (qs : List Request) :
    (Visits.run window qs).registry.all.length =
      ((Visits.run window qs).issued.map Prod.fst).dedup.length := by
  have owned := Registry.owned_run window qs
  have known (id : String) : id ∈ (Visits.run window qs).registry.all.map Record.workerId ↔
      id ∈ ((Visits.run window qs).issued.map Prod.fst).dedup := by
    rw [List.mem_dedup, ← Registry.isSome_get?_run, Option.isSome_iff_exists]
    have view : id ∈ ((Visits.run window qs).registry.all.filter fun _ => true).map Record.workerId ↔
        ∃ w, (Visits.run window qs).registry.get? id = some w ∧ true = true := owned.mem_view
    simpa only [List.filter_true, and_true] using view
  rw [← ((List.perm_ext_iff_of_nodup owned.nodup (List.nodup_dedup _)).mpr known).length_eq,
    List.length_map]

/-- There are no records if and only if no worker ever registered. -/
theorem all_eq_nil_iff (window : Span) (qs : List Request) :
    (Visits.run window qs).registry.all = [] ↔ (Visits.run window qs).issued = [] := by
  rw [← List.length_eq_zero_iff, length_all_run, List.length_eq_zero_iff, List.dedup_eq_nil,
    List.map_eq_nil_iff]

/-- The health check counts copies of records, and the list of the active ones the records. -/
theorem healthyWorkers_health (c : Coordinator) :
    c.health.healthyWorkers = (c.registry.activeAt c.now).length :=
  c.length_filter_snapshots _

/-- Without workers there is no telling how well they are; otherwise one that is active is enough. -/
theorem status_health (c : Coordinator) :
    (c.health.status = .noWorkers ↔ c.registry.all = []) ∧
      (c.health.status = .degraded ↔ c.registry.all ≠ [] ∧ c.registry.activeAt c.now = []) ∧
      (c.health.status = .healthy ↔ c.registry.all ≠ [] ∧ c.registry.activeAt c.now ≠ []) := by
  have status : c.health.status = if (c.registry.all.map c.snapshot).isEmpty then .noWorkers
      else if c.health.healthyWorkers = 0 then .degraded else .healthy := rfl
  simp only [List.isEmpty_map, List.isEmpty_iff, healthyWorkers_health, List.length_eq_zero_iff]
    at status
  by_cases none : c.registry.all = []
  · simp [status, none]
  · by_cases silent : c.registry.activeAt c.now = []
    · simp [status, none, silent]
    · simp [status, none, silent]

/-- The statuses that are counted are those that some worker has. -/
theorem statusCounts_health (c : Coordinator) :
    c.health.statusCounts = ((Named.all (α := WorkerStatus)).map fun s => (s, c.registry.count s)).filter
      fun p => p.2 != 0 := by
  simp only [health, length_filter_snapshots]
  rfl

/-- No status is counted twice. -/
theorem keys_statusCounts_health (c : Coordinator) :
    (c.health.statusCounts.map Prod.fst).Sublist (Named.all (α := WorkerStatus)) := by
  have all : ((Named.all (α := WorkerStatus)).map fun s => (s, c.registry.count s)).map Prod.fst =
      Named.all (α := WorkerStatus) := by
    rw [List.map_map]
    exact List.map_id' _
  rw [statusCounts_health]
  exact all ▸ List.filter_sublist.map Prod.fst

/-- A health check describes the workers, whenever it is made. -/
theorem describes_health {window : Span} {qs : List Request} {c : Coordinator}
    (h : c.registry = (Visits.run window qs).registry) :
    c.health.Describes (Visits.run window qs) c.now := by
  have total : c.health.totalWorkers = c.registry.all.length := List.length_map _
  have keys := c.keys_statusCounts_health
  obtain ⟨noWorkers, degraded, healthy⟩ := c.status_health
  rw [h, all_eq_nil_iff] at noWorkers
  rw [h, ne_eq, all_eq_nil_iff] at degraded healthy
  refine ⟨?total, ?active, ?sum, ?counts, keys.nodup nodup_all_status, noWorkers, degraded, healthy,
    Labels.insertAll_entries_perm _ _ (Health.nodup_lines keys)⟩
  case total => rw [total, h, length_all_run]
  case active => rw [healthyWorkers_health, h]
  case sum =>
    rw [total, statusCounts_health, sum_filter_ne_zero, List.map_map]
    exact sum_length_filter nodup_all_status _ fun w _ => mem_all_status w.status
  case counts =>
    intro s n
    simp only [statusCounts_health, List.mem_filter, List.mem_map, Prod.mk.injEq, bne_iff_ne, h]
    constructor
    · rintro ⟨⟨s, -, rfl, rfl⟩, some⟩
      exact ⟨rfl, some⟩
    · rintro ⟨rfl, some⟩
      exact ⟨⟨s, mem_all_status s, rfl, rfl⟩, some⟩

/-! ## Silence -/

namespace Registry

/-- Whether a worker was heard of with a request, or its last heartbeat was moved. -/
def Visit.hears (id : String) : Visit → Bool
  | ⟨.register g _ _, .ok _⟩ => g.workerId == id
  | ⟨.heartbeat worker .., .ok _⟩ => worker == id
  | ⟨.backdate worker _ _, _⟩ => worker == id
  | _ => false

/-- The requests with which a worker was heard of. -/
def Visits.heard (v : Visits) (id : String) : List Visit := v.log.filter (Visit.hears id)

/-- The time that a request tells. -/
def Request.clock? : Request → Option Instant
  | register _ _ now | heartbeat _ _ _ _ now | backdate _ _ now => some now
  | _ => none

variable {v : Visits} {id : String}

/-- A worker of which nothing is heard does not register. -/
theorem Visit.registers_of_unheard {x : Visit} (unheard : x.hears id = false) :
    x.registers id = false := by
  unfold registers
  split
  · exact unheard
  · rfl

/-- What is done to the record of an unheard worker leaves its last heartbeat. -/
theorem Visit.lastHeartbeat_amend {x : Visit} (unheard : x.hears id = false) (w : Record) :
    (x.amend id w).lastHeartbeat = w.lastHeartbeat := by
  unfold amend
  split
  · rw [if_neg (Ne.symm (ne_of_beq_false unheard))]
  · split <;> rfl
  · split
    · split <;> rfl
    · rfl
  · split <;> rfl
  · rw [if_neg (Ne.symm (ne_of_beq_false unheard))]
  · rfl

/-- The last heartbeat of a worker that is not heard of stays. -/
theorem lastHeartbeat_serve {r : Registry} {q : Request}
    (unheard : Visit.hears id ⟨q, (r.serve q).1⟩ = false) :
    ((r.serve q).2.get? id).map Record.lastHeartbeat = (r.get? id).map Record.lastHeartbeat := by
  rw [(r.served q).record, Visit.record?_of_old (Visit.registers_of_unheard unheard), Option.none_or, Option.map_map]
  exact congrArg (Option.map · (r.get? id)) (funext (Visit.lastHeartbeat_amend unheard))

/-- A request with which a worker is heard of comes first. -/
theorem Visits.heard_next (v : Visits) (q : Request) (id : String) :
    (v.next q).heard id = if Visit.hears id ⟨q, (v.registry.serve q).1⟩
      then ⟨q, (v.registry.serve q).1⟩ :: v.heard id else v.heard id :=
  List.filter_cons

/-- What was heard is not forgotten. -/
theorem Visits.length_heard_le (later : List Request) (v : Visits) (id : String) :
    (v.heard id).length ≤ ((later.foldl next v).heard id).length := by
  induction later generalizing v with
  | nil => exact Nat.le_refl _
  | cons q later ih =>
    refine Nat.le_trans ?_ (ih (v.next q))
    rw [heard_next]
    split
    · exact Nat.le_succ _
    · exact Nat.le_refl _

/-- In requests with which a worker is not heard of, its last heartbeat stays. -/
theorem Visits.lastHeartbeat_of_unheard {later : List Request}
    (h : (later.foldl next v).heard id = v.heard id) :
    ((later.foldl next v).registry.get? id).map Record.lastHeartbeat =
      (v.registry.get? id).map Record.lastHeartbeat := by
  induction later generalizing v with
  | nil => rfl
  | cons q later ih =>
    have unheard : Visit.hears id ⟨q, (v.registry.serve q).1⟩ = false := by
      refine Bool.eq_false_iff.mpr fun hears => ?_
      have grown := length_heard_le later (v.next q) id
      rw [heard_next, if_pos hears, List.length_cons] at grown
      have same := congrArg List.length h
      rw [List.foldl_cons] at same
      omega
    have next : (v.next q).heard id = v.heard id := by
      rw [heard_next, if_neg (by rw [unheard]; exact Bool.false_ne_true)]
    rw [List.foldl_cons] at h ⊢
    rw [ih (h.trans next.symm)]
    exact lastHeartbeat_serve unheard

/-- The window is the same for the whole run. -/
theorem window_run (window : Span) (qs : List Request) :
    (Visits.run window qs).registry.window = (empty window).window :=
  @Visits.run_keeps (fun v => v.registry.window = (empty window).window) window qs rfl
    fun q _ v h => (v.registry.served q).window.trans h

/-- A record is made with the time that its request tells. -/
theorem Visit.isPlain_record? {x : Visit} (plain : ∀ t, x.request.clock? = some t → t.IsPlain)
    {w : Record} (h : x.record? id = some w) : w.lastHeartbeat.IsPlain := by
  unfold record? at h
  split at h
  · split at h
    · cases h
      exact plain _ rfl
    · cases h
  · cases h

/-- A record is amended with no other time than its request tells. -/
theorem Visit.isPlain_amend {x : Visit} (plain : ∀ t, x.request.clock? = some t → t.IsPlain)
    {w : Record} (hw : w.lastHeartbeat.IsPlain) : (x.amend id w).lastHeartbeat.IsPlain := by
  unfold amend
  split
  · split
    · exact plain _ rfl
    · exact hw
  · split <;> exact hw
  · split
    · split <;> exact hw
    · exact hw
  · split <;> exact hw
  · next age now _ =>
    split
    · cases moved : now.after? (-age) with
      | none => exact hw
      | some t => exact (Instant.after?_eq_some moved).1
    · exact hw
  · exact hw

/-- As long as a clock told the times, no worker was last heard of in a leap second. -/
theorem isPlain_run {window : Span} {qs : List Request}
    (plain : ∀ q ∈ qs, ∀ t, q.clock? = some t → t.IsPlain) :
    ∀ id w, (Visits.run window qs).registry.get? id = some w → w.lastHeartbeat.IsPlain := by
  refine @Visits.run_keeps (fun v => ∀ id w, v.registry.get? id = some w → w.lastHeartbeat.IsPlain)
    window qs (fun _ _ h => by cases h) ?_
  intro q hq v h id w there
  rcases Option.or_eq_some_iff.mp (((v.registry.served q).record id).symm.trans there) with new | ⟨-, old⟩
  · exact Visit.isPlain_record? (plain q hq) new
  · obtain ⟨w, before, rfl⟩ := Option.map_eq_some_iff.mp old
    exact Visit.isPlain_amend (plain q hq) (h id w before)

/-- Time has passed from one point to another, as seen from a heartbeat. -/
inductive Later (heard a b : Instant) : Prop
  /-- None of them lies in a leap second. -/
  | told (plain : heard.IsPlain) (ha : a.IsPlain) (hb : b.IsPlain) (h : a ≤ b)
  /-- Whatever leap seconds they lie in, these do not make up for three seconds. -/
  | apart (h : a.seconds + 3 ≤ b.seconds)

/-- What is past is longer past later. -/
theorem Later.since_le {heard a b : Instant} (time : Later heard a b) : a.since heard ≤ b.since heard := by
  cases time with
  | told plain ha hb h => exact Instant.since_le_of_le ha hb plain h
  | apart h => exact Instant.since_le_of_apart h

/-- A worker that is not heard of stays stale. -/
theorem stale_unheard {window : Span} {qs later : List Request} {a b : Instant}
    (silent : (Visits.run window (qs ++ later)).heard id = (Visits.run window qs).heard id)
    (time : ∀ w, (Visits.run window qs).registry.get? id = some w → Later w.lastHeartbeat a b)
    (stale : id ∈ ((Visits.run window qs).registry.staleAt a).map Record.workerId) :
    id ∈ ((Visits.run window (qs ++ later)).registry.staleAt b).map Record.workerId := by
  rw [Visits.run_append] at silent
  have same := Visits.lastHeartbeat_of_unheard silent
  rw [← Visits.run_append] at same
  unfold staleAt at stale ⊢
  rw [(owned_run _ _).mem_view] at stale ⊢
  obtain ⟨w, there, stale⟩ := stale
  rw [there, Option.map_some] at same
  obtain ⟨w', there', heard⟩ := Option.map_eq_some_iff.mp same
  refine ⟨w', there', ?_⟩
  have older : a.since w.lastHeartbeat ≤ b.since w.lastHeartbeat := (time w there).since_le
  simp only [Record.isStaleAt, decide_eq_true_eq, window_run] at stale ⊢
  rw [heard]
  exact Int.le_trans stale older

end Registry

open Registry (Later)

/-- A worker registers and opens a stream; then its stream is given up, and a heartbeat with another token
is refused. -/
def fallenSilent : List Request × List Request :=
  ([.register ⟨"w", "worker", .ofList [.aiInsights], "1", .empty⟩ "t-1" .epoch, .attach "w" "t-1" 0],
    [.detach "w" 0, .heartbeat "w" "t-2" .idle none .epoch])

end WorkDispatch.Coordinator
