import WorkDispatch.Proofs.Labels
import WorkDispatch.Proofs.Settings.Laying
import WorkDispatch.Settings.Coercion

/-!
# The leaves of the settings

A leaf is a path of keys, the type that is read at it, and where its value goes in the settings. Settings are
a record of records: the leaves of a group are the leaves of its parts, each under the key of its part
(`Leaf.within`), and so are the proofs about them. `leaves` is all of them but the labels of the worker, of
which there may be any (`label`); settings that agree at every leaf are the same (`eq_of_leaves`).

Settings that are read from a layer have at every leaf what is at its path, if that path leads to
something (`reads_leaves`). Where a path leads nowhere nothing is said, for what is read then hangs on
which group is missing: a breaker by itself has other defaults than the breaker of an operation. A group
may also be read from a list, whose items are its fields in their order; no path leads into one.
-/

set_option autoImplicit false

namespace WorkDispatch.Settings

open Layer

/-- A place in a record of settings, and how the value that it has in a layer is read. -/
structure Leaf (ρ : Type) where
  path : List String
  {Value : Type}
  read : Layer → Option Value
  get : ρ → Value

namespace Leaf

variable {ρ γ : Type}

/-- A leaf of a part, as one of the whole. -/
def within (name : String) (part : ρ → γ) (l : Leaf γ) : Leaf ρ :=
  ⟨name :: l.path, l.read, l.get ∘ part⟩

/-- The leaf of a field. -/
def field {α : Type} (name : String) (read : Layer → Option α) (get : ρ → α) : Leaf ρ :=
  ⟨[name], read, get⟩

/-- What is read has at the leaf what the layer has at its path. -/
def Reads (read? : Layer → Option ρ) (l : Leaf ρ) : Prop :=
  ∀ v r x, read? v = some r → at? l.path v = some x → l.read x = some (l.get r)

/-- The leaf takes no table for a value. -/
def Refuses (l : Leaf ρ) : Prop := ∀ es, l.read (table es) = none

end Leaf

/-! ## Groups and their leaves -/

section

open Leaf

def Logging.leaves : List (Leaf Logging) :=
  [field "level" lenient.text? Logging.level, field "json" lenient.flag? Logging.json]

def ServerTls.leaves : List (Leaf ServerTls) :=
  [field "enabled" lenient.flag? ServerTls.enabled,
   field "cert_path" lenient.optionalText? ServerTls.certPath,
   field "key_path" lenient.optionalText? ServerTls.keyPath]

def ClientTls.leaves : List (Leaf ClientTls) :=
  [field "enabled" lenient.flag? ClientTls.enabled,
   field "ca_cert_path" lenient.optionalText? ClientTls.caCertPath,
   field "domain_name" lenient.optionalText? ClientTls.domainName]

def Coordinator.leaves : List (Leaf Coordinator) :=
  [field "bind_address" lenient.text? bindAddress,
   field "queue_capacity" (lenient.count? 64) queueCapacity,
   field "stale_worker_threshold_seconds" (lenient.count? 64) staleWorkerThresholdSeconds,
   field "heartbeat_interval_seconds" (lenient.count? 64) heartbeatIntervalSeconds,
   field "sweep_interval_seconds" (lenient.count? 64) sweepIntervalSeconds,
   field "shutdown_timeout_seconds" (lenient.count? 64) shutdownTimeoutSeconds,
   field "keepalive_interval_seconds" (lenient.count? 64) keepaliveIntervalSeconds,
   field "keepalive_timeout_seconds" (lenient.count? 64) keepaliveTimeoutSeconds,
   field "stream_buffer" (lenient.count? 64) streamBuffer]
    ++ ServerTls.leaves.map (within "tls" tls)

def Connection.leaves : List (Leaf Connection) :=
  [field "endpoint" lenient.text? endpoint,
   field "connect_timeout_ms" (lenient.count? 64) connectTimeoutMs,
   field "request_timeout_ms" (lenient.count? 64) requestTimeoutMs,
   field "keepalive_interval_ms" (lenient.count? 64) keepaliveIntervalMs,
   field "keepalive_timeout_ms" (lenient.count? 64) keepaliveTimeoutMs,
   field "health_poll_interval_ms" (lenient.count? 64) healthPollIntervalMs,
   field "max_message_size_bytes" (lenient.count? 64) maxMessageSizeBytes]
    ++ ClientTls.leaves.map (within "tls" tls)

def Worker.leaves : List (Leaf Worker) :=
  [field "worker_id" lenient.text? workerId,
   field "worker_name" lenient.text? workerName,
   field "capabilities" lenient.capabilities? capabilities,
   field "version" lenient.text? version,
   field "max_concurrent_tasks" (lenient.count? 64) maxConcurrentTasks,
   field "heartbeat_interval_seconds" (lenient.count? 64) heartbeatIntervalSeconds,
   field "connection_check_interval_seconds" (lenient.count? 64) connectionCheckIntervalSeconds,
   field "stats_log_interval_seconds" (lenient.count? 64) statsLogIntervalSeconds,
   field "task_timeout_seconds" (lenient.count? 64) taskTimeoutSeconds,
   field "shutdown_timeout_seconds" (lenient.count? 64) shutdownTimeoutSeconds]
    ++ Connection.leaves.map (within "connection" connection)

def Retry.leaves : List (Leaf Retry) :=
  [field "max_attempts" (lenient.count? 32) maxAttempts,
   field "initial_delay_ms" (lenient.count? 64) initialDelayMs,
   field "max_delay_ms" (lenient.count? 64) maxDelayMs,
   field "backoff_factor" lenient.real? backoffFactor,
   field "jitter" lenient.real? jitter]

def Breaker.leaves : List (Leaf Breaker) :=
  [field "failure_threshold" (lenient.count? 32) failureThreshold,
   field "success_threshold" (lenient.count? 32) successThreshold,
   field "timeout_seconds" (lenient.count? 64) timeoutSeconds]

def Breakers.leaves : List (Leaf Breakers) :=
  Breaker.leaves.map (within "registration" registration)
    ++ Breaker.leaves.map (within "task_processing" taskProcessing)
    ++ Breaker.leaves.map (within "connection" connection)

/-- The leaves of all settings, the labels of the worker apart. -/
def leaves : List (Leaf Settings) :=
  Logging.leaves.map (within "logging" logging)
    ++ Coordinator.leaves.map (within "coordinator" coordinator)
    ++ Worker.leaves.map (within "worker" worker)
    ++ Retry.leaves.map (within "retry" retry)
    ++ Breakers.leaves.map (within "circuit_breakers" breakers)

/-- The label of the worker under a key. -/
def label (key : String) : Leaf Settings :=
  ⟨["worker", "metadata", key], fun v => (lenient.text? v).map some, fun s => s.worker.metadata.get? key⟩

end

/-! ## What is read at the leaves -/

section

variable {ρ γ α : Type} {v x : Layer} {names : List String} {fields : String → Option Layer}
  {name : String} {d : α} {f : Layer → Option α} {a : α}

/-- What is at a path is below its first step. -/
theorem lookup_of_at? {p : List String} (h : at? (name :: p) v = some x) :
    ∃ u, v.entries.lookup name = some u ∧ at? p u = some x :=
  Option.bind_eq_some_iff.mp h

/-- A record with an entry that a path leads to is a table, and the entry is read. -/
theorem read_of_lookup (record : lenient.record? names v = some fields)
    (field : Access.field fields name d f = some a) (there : v.entries.lookup name = some x) :
    f x = some a := by
  cases v with
  | table es =>
    cases record
    rw [Access.field, show es.lookup name = some x from there] at field
    exact field
  | _ => cases there

/-- A field that is there is read from what is there. -/
theorem read_of_at? (record : lenient.record? names v = some fields)
    (field : Access.field fields name d f = some a) (there : at? [name] v = some x) : f x = some a := by
  obtain ⟨u, found, same⟩ := lookup_of_at? there
  cases same
  exact read_of_lookup record field found

end

section

open Leaf

/-- The leaves of a part are read when the part is. -/
theorem Leaf.Reads.part {ρ γ : Type} {read? : Layer → Option ρ} {readPart? : Layer → Option γ}
    {name : String} {get : ρ → γ} {ls : List (Leaf γ)} (parts : ∀ l ∈ ls, l.Reads readPart?)
    (whole : (field name readPart? get).Reads read?) : ∀ l ∈ ls.map (within name get), l.Reads read? := by
  intro l hl v r x h there
  obtain ⟨inner, hi, rfl⟩ := List.mem_map.mp hl
  obtain ⟨u, found, there⟩ := lookup_of_at? there
  have here : at? [name] v = some u := by
    rw [at?, found]
    rfl
  exact parts inner hi u (get r) x (whole v r u h here) there

/-- Each setting of the log is read at its own leaf. -/
theorem Logging.reads : ∀ l ∈ leaves, l.Reads lenient.logging? := by
  simp only [leaves, List.forall_mem_cons, List.not_mem_nil, false_imp_iff,
    implies_true, and_true]
  refine ⟨?_, ?_⟩
  all_goals
    intro v r x h there
    obtain ⟨fields, record, h⟩ := Option.bind_eq_some_iff.mp h
    obtain ⟨_, level, h⟩ := Option.bind_eq_some_iff.mp h
    obtain ⟨_, json, h⟩ := Option.bind_eq_some_iff.mp h
    cases h
    exact read_of_at? record (by assumption) there

/-- So is each of a secured server. -/
theorem ServerTls.reads : ∀ l ∈ leaves, l.Reads lenient.serverTls? := by
  simp only [leaves, List.forall_mem_cons, List.not_mem_nil, false_imp_iff,
    implies_true, and_true]
  refine ⟨?_, ?_, ?_⟩
  all_goals
    intro v r x h there
    obtain ⟨fields, record, h⟩ := Option.bind_eq_some_iff.mp h
    obtain ⟨_, enabled, h⟩ := Option.bind_eq_some_iff.mp h
    obtain ⟨_, certPath, h⟩ := Option.bind_eq_some_iff.mp h
    obtain ⟨_, keyPath, h⟩ := Option.bind_eq_some_iff.mp h
    cases h
    exact read_of_at? record (by assumption) there

/-- So is each of a secured client. -/
theorem ClientTls.reads : ∀ l ∈ leaves, l.Reads lenient.clientTls? := by
  simp only [leaves, List.forall_mem_cons, List.not_mem_nil, false_imp_iff,
    implies_true, and_true]
  refine ⟨?_, ?_, ?_⟩
  all_goals
    intro v r x h there
    obtain ⟨fields, record, h⟩ := Option.bind_eq_some_iff.mp h
    obtain ⟨_, enabled, h⟩ := Option.bind_eq_some_iff.mp h
    obtain ⟨_, caCertPath, h⟩ := Option.bind_eq_some_iff.mp h
    obtain ⟨_, domainName, h⟩ := Option.bind_eq_some_iff.mp h
    cases h
    exact read_of_at? record (by assumption) there

/-- Each setting of a coordinator is read at its own leaf. -/
theorem Coordinator.reads : ∀ l ∈ leaves, l.Reads lenient.coordinator? := by
  simp only [leaves, List.forall_mem_append, List.forall_mem_cons, List.not_mem_nil, false_imp_iff,
    implies_true, and_true]
  refine ⟨⟨?_, ?_, ?_, ?_, ?_, ?_, ?_, ?_, ?_⟩, Leaf.Reads.part ServerTls.reads ?_⟩
  all_goals
    intro v r x h there
    obtain ⟨fields, record, h⟩ := Option.bind_eq_some_iff.mp h
    obtain ⟨_, bindAddress, h⟩ := Option.bind_eq_some_iff.mp h
    obtain ⟨_, tls, h⟩ := Option.bind_eq_some_iff.mp h
    obtain ⟨_, queueCapacity, h⟩ := Option.bind_eq_some_iff.mp h
    obtain ⟨_, stale, h⟩ := Option.bind_eq_some_iff.mp h
    obtain ⟨_, heartbeat, h⟩ := Option.bind_eq_some_iff.mp h
    obtain ⟨_, sweep, h⟩ := Option.bind_eq_some_iff.mp h
    obtain ⟨_, shutdown, h⟩ := Option.bind_eq_some_iff.mp h
    obtain ⟨_, interval, h⟩ := Option.bind_eq_some_iff.mp h
    obtain ⟨_, timeout, h⟩ := Option.bind_eq_some_iff.mp h
    obtain ⟨_, buffer, h⟩ := Option.bind_eq_some_iff.mp h
    cases h
    exact read_of_at? record (by assumption) there

/-- So is each of a connection. -/
theorem Connection.reads : ∀ l ∈ leaves, l.Reads lenient.connection? := by
  simp only [leaves, List.forall_mem_append, List.forall_mem_cons, List.not_mem_nil, false_imp_iff,
    implies_true, and_true]
  refine ⟨⟨?_, ?_, ?_, ?_, ?_, ?_, ?_⟩, Leaf.Reads.part ClientTls.reads ?_⟩
  all_goals
    intro v r x h there
    obtain ⟨fields, record, h⟩ := Option.bind_eq_some_iff.mp h
    obtain ⟨_, endpoint, h⟩ := Option.bind_eq_some_iff.mp h
    obtain ⟨_, tls, h⟩ := Option.bind_eq_some_iff.mp h
    obtain ⟨_, connect, h⟩ := Option.bind_eq_some_iff.mp h
    obtain ⟨_, request, h⟩ := Option.bind_eq_some_iff.mp h
    obtain ⟨_, interval, h⟩ := Option.bind_eq_some_iff.mp h
    obtain ⟨_, timeout, h⟩ := Option.bind_eq_some_iff.mp h
    obtain ⟨_, poll, h⟩ := Option.bind_eq_some_iff.mp h
    obtain ⟨_, size, h⟩ := Option.bind_eq_some_iff.mp h
    cases h
    exact read_of_at? record (by assumption) there

/-- So is each of a worker, its labels included. -/
theorem Worker.reads (freshId : String) :
    ∀ l ∈ field "metadata" lenient.labels? metadata :: leaves, l.Reads (lenient.worker? freshId) := by
  simp only [leaves, List.forall_mem_append, List.forall_mem_cons, List.not_mem_nil, false_imp_iff,
    implies_true, and_true]
  refine ⟨?_, ⟨?_, ?_, ?_, ?_, ?_, ?_, ?_, ?_, ?_, ?_⟩, Leaf.Reads.part Connection.reads ?_⟩
  all_goals
    intro v r x h there
    obtain ⟨fields, record, h⟩ := Option.bind_eq_some_iff.mp h
    obtain ⟨_, id, h⟩ := Option.bind_eq_some_iff.mp h
    obtain ⟨_, workerName, h⟩ := Option.bind_eq_some_iff.mp h
    obtain ⟨_, capabilities, h⟩ := Option.bind_eq_some_iff.mp h
    obtain ⟨_, version, h⟩ := Option.bind_eq_some_iff.mp h
    obtain ⟨_, metadata, h⟩ := Option.bind_eq_some_iff.mp h
    obtain ⟨_, tasks, h⟩ := Option.bind_eq_some_iff.mp h
    obtain ⟨_, heartbeat, h⟩ := Option.bind_eq_some_iff.mp h
    obtain ⟨_, check, h⟩ := Option.bind_eq_some_iff.mp h
    obtain ⟨_, stats, h⟩ := Option.bind_eq_some_iff.mp h
    obtain ⟨_, task, h⟩ := Option.bind_eq_some_iff.mp h
    obtain ⟨_, shutdown, h⟩ := Option.bind_eq_some_iff.mp h
    obtain ⟨_, connection, h⟩ := Option.bind_eq_some_iff.mp h
    cases h
    exact read_of_at? record (by assumption) there

/-- So is each of a retry policy. -/
theorem Retry.reads : ∀ l ∈ leaves, l.Reads lenient.retry? := by
  simp only [leaves, List.forall_mem_cons, List.not_mem_nil, false_imp_iff,
    implies_true, and_true]
  refine ⟨?_, ?_, ?_, ?_, ?_⟩
  all_goals
    intro v r x h there
    obtain ⟨fields, record, h⟩ := Option.bind_eq_some_iff.mp h
    obtain ⟨_, attempts, h⟩ := Option.bind_eq_some_iff.mp h
    obtain ⟨_, initial, h⟩ := Option.bind_eq_some_iff.mp h
    obtain ⟨_, longest, h⟩ := Option.bind_eq_some_iff.mp h
    obtain ⟨_, factor, h⟩ := Option.bind_eq_some_iff.mp h
    obtain ⟨_, jitter, h⟩ := Option.bind_eq_some_iff.mp h
    cases h
    exact read_of_at? record (by assumption) there

/-- So is each of a breaker. -/
theorem Breaker.reads : ∀ l ∈ leaves, l.Reads lenient.breaker? := by
  simp only [leaves, List.forall_mem_cons, List.not_mem_nil, false_imp_iff,
    implies_true, and_true]
  refine ⟨?_, ?_, ?_⟩
  all_goals
    intro v r x h there
    obtain ⟨fields, record, h⟩ := Option.bind_eq_some_iff.mp h
    obtain ⟨_, failures, h⟩ := Option.bind_eq_some_iff.mp h
    obtain ⟨_, successes, h⟩ := Option.bind_eq_some_iff.mp h
    obtain ⟨_, timeout, h⟩ := Option.bind_eq_some_iff.mp h
    cases h
    exact read_of_at? record (by assumption) there

/-- So is each of the three breakers. -/
theorem Breakers.reads : ∀ l ∈ leaves, l.Reads lenient.breakers? := by
  simp only [leaves, List.forall_mem_append]
  refine ⟨⟨.part Breaker.reads ?_, .part Breaker.reads ?_⟩, .part Breaker.reads ?_⟩
  all_goals
    intro v r x h there
    obtain ⟨fields, record, h⟩ := Option.bind_eq_some_iff.mp h
    obtain ⟨_, registration, h⟩ := Option.bind_eq_some_iff.mp h
    obtain ⟨_, processing, h⟩ := Option.bind_eq_some_iff.mp h
    obtain ⟨_, connection, h⟩ := Option.bind_eq_some_iff.mp h
    cases h
    exact read_of_at? record (by assumption) there

/-- All labels of the worker. -/
def labels : Leaf Settings := within "worker" worker (field "metadata" lenient.labels? Worker.metadata)

/-- Every leaf of settings that are read from a layer has what the layer has at its path. -/
theorem reads_leaves (freshId : String) :
    ∀ l ∈ labels :: leaves, l.Reads (lenient.settings? freshId) := by
  simp only [leaves, List.forall_mem_append, List.forall_mem_cons]
  have metadata := List.mem_map_of_mem (f := within "worker" worker)
    (List.mem_cons_self (a := field "metadata" lenient.labels? Worker.metadata) (l := Worker.leaves))
  have others : ∀ l ∈ Worker.leaves, l.Reads (lenient.worker? freshId) := fun l hl =>
    Worker.reads freshId l (List.mem_cons_of_mem _ hl)
  refine ⟨.part (Worker.reads freshId) ?_ _ metadata, ⟨⟨⟨.part Logging.reads ?_,
    .part Coordinator.reads ?_⟩, .part others ?_⟩, .part Retry.reads ?_⟩, .part Breakers.reads ?_⟩
  all_goals
    intro v r x h there
    obtain ⟨fields, record, h⟩ := Option.bind_eq_some_iff.mp h
    obtain ⟨_, logging, h⟩ := Option.bind_eq_some_iff.mp h
    obtain ⟨_, coordinator, h⟩ := Option.bind_eq_some_iff.mp h
    obtain ⟨_, worker, h⟩ := Option.bind_eq_some_iff.mp h
    obtain ⟨_, retry, h⟩ := Option.bind_eq_some_iff.mp h
    obtain ⟨_, breakers, h⟩ := Option.bind_eq_some_iff.mp h
    cases h
    exact read_of_at? record (by assumption) there

/-! ## Labels -/

/-- What the labels of a table are read as has the keys of the table, and their texts. -/
theorem lookup_of_mapM {es : List (String × Layer)} {ts : List (String × String)}
    (h : (es.mapM fun e => (text? e.2).map fun t => (e.1, t)) = some ts) :
    ts.map Prod.fst = es.map Prod.fst ∧ ∀ k, (es.lookup k).map text? = (ts.lookup k).map some := by
  induction es generalizing ts with
  | nil =>
    cases h
    exact ⟨rfl, fun _ => rfl⟩
  | cons e es ih =>
    simp only [List.mapM_cons, Option.bind_eq_bind, Option.bind_eq_some_iff, Option.map_eq_some_iff,
      Option.pure_def, Option.some.injEq] at h
    obtain ⟨_, ⟨t, text, rfl⟩, ts, rest, rfl⟩ := h
    obtain ⟨keys, texts⟩ := ih rest
    refine ⟨congrArg (e.1 :: ·) keys, fun k => ?_⟩
    rw [Table.lookup_cons, Table.lookup_cons]
    split
    · exact congrArg some text
    · exact texts k

/-- A label is read where its key leads to, if the labels come from a table without repeated keys. -/
theorem label_of_read {es : List (String × Layer)} {ls : Labels} (nodup : (es.map Prod.fst).Nodup)
    (read : lenient.labels? (table es) = some ls) (k : String) :
    (es.lookup k).map lenient.text? = (ls.get? k).map some := by
  obtain ⟨ts, texts, rfl⟩ := Option.map_eq_some_iff.mp read
  obtain ⟨keys, same⟩ := lookup_of_mapM texts
  rw [Labels.get?_ofList (keys ▸ nodup)]
  exact same k

/-! ## Tables for values -/

/-- No leaf takes a table for a value. -/
theorem refuses_leaves : ∀ l ∈ leaves, l.Refuses := by
  have none : ∀ es, lenient.text? (table es) = none ∧ lenient.flag? (table es) = none ∧
      (∀ bits, lenient.count? bits (table es) = none) ∧ lenient.real? (table es) = none ∧
      lenient.optionalText? (table es) = none ∧ lenient.capabilities? (table es) = none := by
    intro es
    exact ⟨rfl, rfl, fun _ => rfl, rfl, rfl, rfl⟩
  simp only [leaves, Logging.leaves, Coordinator.leaves, ServerTls.leaves, Worker.leaves,
    Connection.leaves, ClientTls.leaves, Retry.leaves, Breakers.leaves, Breaker.leaves,
    List.map_append, List.map_cons, List.map_nil, List.forall_mem_append, List.forall_mem_cons,
    List.not_mem_nil, false_imp_iff, implies_true, and_true, Refuses, field, within, none]

/-! ## Settings by their leaves -/

attribute [ext] Logging ServerTls ClientTls Coordinator Connection Worker Retry Breaker Breakers Settings

/-- The leaves tell settings of a log apart. -/
theorem Logging.eq_of_leaves {s t : Logging} (h : ∀ l ∈ leaves, l.get s = l.get t) : s = t := by
  simp only [leaves, field, List.forall_mem_cons, List.not_mem_nil, false_imp_iff, implies_true,
    and_true] at h
  obtain ⟨level, json⟩ := h
  exact Logging.ext level json

theorem ServerTls.eq_of_leaves {s t : ServerTls} (h : ∀ l ∈ leaves, l.get s = l.get t) : s = t := by
  simp only [leaves, field, List.forall_mem_cons, List.not_mem_nil, false_imp_iff, implies_true,
    and_true] at h
  obtain ⟨enabled, certPath, keyPath⟩ := h
  exact ServerTls.ext enabled certPath keyPath

theorem ClientTls.eq_of_leaves {s t : ClientTls} (h : ∀ l ∈ leaves, l.get s = l.get t) : s = t := by
  simp only [leaves, field, List.forall_mem_cons, List.not_mem_nil, false_imp_iff, implies_true,
    and_true] at h
  obtain ⟨enabled, caCertPath, domainName⟩ := h
  exact ClientTls.ext enabled caCertPath domainName

theorem Retry.eq_of_leaves {s t : Retry} (h : ∀ l ∈ leaves, l.get s = l.get t) : s = t := by
  simp only [leaves, field, List.forall_mem_cons, List.not_mem_nil, false_imp_iff, implies_true,
    and_true] at h
  obtain ⟨attempts, initial, longest, factor, jitter⟩ := h
  exact Retry.ext attempts initial longest factor jitter

theorem Breaker.eq_of_leaves {s t : Breaker} (h : ∀ l ∈ leaves, l.get s = l.get t) : s = t := by
  simp only [leaves, field, List.forall_mem_cons, List.not_mem_nil, false_imp_iff, implies_true,
    and_true] at h
  obtain ⟨failures, successes, timeout⟩ := h
  exact Breaker.ext failures successes timeout

/-- They tell those of coordinators apart. -/
theorem Coordinator.eq_of_leaves {s t : Coordinator} (h : ∀ l ∈ leaves, l.get s = l.get t) :
    s = t := by
  simp only [leaves, field, within, List.forall_mem_append, List.forall_mem_map, List.forall_mem_cons,
    List.not_mem_nil, false_imp_iff, implies_true, and_true, Function.comp_apply] at h
  obtain ⟨⟨address, capacity, stale, heartbeat, sweep, shutdown, interval, timeout, buffer⟩, tls⟩ := h
  exact Coordinator.ext address (ServerTls.eq_of_leaves tls) capacity stale heartbeat sweep shutdown
    interval timeout buffer

/-- They tell those of connections apart. -/
theorem Connection.eq_of_leaves {s t : Connection} (h : ∀ l ∈ leaves, l.get s = l.get t) :
    s = t := by
  simp only [leaves, field, within, List.forall_mem_append, List.forall_mem_map, List.forall_mem_cons,
    List.not_mem_nil, false_imp_iff, implies_true, and_true, Function.comp_apply] at h
  obtain ⟨⟨endpoint, connect, request, interval, timeout, poll, size⟩, tls⟩ := h
  exact Connection.ext endpoint (ClientTls.eq_of_leaves tls) connect request interval timeout poll size

/-- They tell those of workers apart, but for the labels. -/
theorem Worker.eq_of_leaves {s t : Worker} (h : ∀ l ∈ leaves, l.get s = l.get t)
    (metadata : s.metadata = t.metadata) : s = t := by
  simp only [leaves, field, within, List.forall_mem_append, List.forall_mem_map, List.forall_mem_cons,
    List.not_mem_nil, false_imp_iff, implies_true, and_true, Function.comp_apply] at h
  obtain ⟨⟨id, workerName, capabilities, version, tasks, heartbeat, check, stats, task, shutdown⟩,
    connection⟩ := h
  exact Worker.ext id workerName capabilities version metadata tasks heartbeat check stats task
    shutdown (Connection.eq_of_leaves connection)

/-- They tell those of breakers apart. -/
theorem Breakers.eq_of_leaves {s t : Breakers} (h : ∀ l ∈ leaves, l.get s = l.get t) : s = t := by
  simp only [leaves, within, List.forall_mem_append, List.forall_mem_map, Function.comp_apply] at h
  obtain ⟨⟨registration, processing⟩, connection⟩ := h
  exact Breakers.ext (Breaker.eq_of_leaves registration) (Breaker.eq_of_leaves processing)
    (Breaker.eq_of_leaves connection)

/-- Settings that agree at every leaf are the same. -/
theorem eq_of_leaves {s t : Settings} (h : ∀ l ∈ leaves, l.get s = l.get t)
    (labels : ∀ k, (label k).get s = (label k).get t) : s = t := by
  simp only [leaves, within, List.forall_mem_append, List.forall_mem_map, Function.comp_apply] at h
  obtain ⟨⟨⟨⟨logging, coordinator⟩, worker⟩, retry⟩, breakers⟩ := h
  exact Settings.ext (Logging.eq_of_leaves logging) (Coordinator.eq_of_leaves coordinator)
    (Worker.eq_of_leaves worker (Labels.eq_of_get? labels)) (Retry.eq_of_leaves retry)
    (Breakers.eq_of_leaves breakers)

/-! ## The defaults -/

/-- The value of the layer at the path of the leaf is read as what the record has there. -/
def Leaf.Holds {ρ : Type} (v : Layer) (r : ρ) (l : Leaf ρ) : Prop :=
  (at? l.path v).bind l.read = some (l.get r)

/-- What is at its path and is read as what the record has, a leaf holds. -/
theorem Leaf.holds_of_at? {ρ : Type} {v x : Layer} {r : ρ} {l : Leaf ρ} (there : at? l.path v = some x)
    (read : l.read x = some (l.get r)) : l.Holds v r := by
  unfold Holds
  rw [there]
  exact read

/-- What a part holds at its leaves, the whole holds below the name of the part. -/
theorem Leaf.Holds.part {ρ γ : Type} {name : String} {get : ρ → γ} {ls : List (Leaf γ)} {v u : Layer}
    {r : ρ} (there : v.entries.lookup name = some u) (parts : ∀ l ∈ ls, l.Holds u (get r)) :
    ∀ l ∈ ls.map (within name get), l.Holds v r := by
  intro l hl
  obtain ⟨inner, hi, rfl⟩ := List.mem_map.mp hl
  have same : at? (within name get inner).path v = at? inner.path u := by
    show (v.entries.lookup name).bind (at? inner.path) = _
    rw [there]
    rfl
  show (at? (within name get inner).path v).bind inner.read = _
  rw [same]
  exact parts inner hi

/-- The numbers among the defaults that are not whole are read back from their shortest digits. -/
theorem real?_ofFloat_default :
    lenient.real? (ofJson (ofFloat Retry.default.backoffFactor)) = some Retry.default.backoffFactor ∧
      lenient.real? (ofJson (ofFloat Retry.default.jitter)) = some Retry.default.jitter := by
  decide +kernel

/-- The document of the defaults holds those of a coordinator. -/
theorem Coordinator.holds_default :
    ∀ l ∈ leaves, l.Holds (ofJson default.toJson) default := by
  simp only [leaves, List.forall_mem_append, List.forall_mem_cons, List.not_mem_nil, false_imp_iff,
    implies_true, and_true]
  refine ⟨⟨rfl, rfl, rfl, rfl, rfl, rfl, rfl, rfl, rfl⟩, .part rfl ?_⟩
  simp only [ServerTls.leaves, List.forall_mem_cons, List.not_mem_nil, false_imp_iff, implies_true,
    and_true]
  exact ⟨rfl, rfl, rfl⟩

/-- It holds those of a connection. -/
theorem Connection.holds_default :
    ∀ l ∈ leaves, l.Holds (ofJson default.toJson) default := by
  simp only [leaves, List.forall_mem_append, List.forall_mem_cons, List.not_mem_nil, false_imp_iff,
    implies_true, and_true]
  refine ⟨⟨rfl, rfl, rfl, rfl, rfl, rfl, rfl⟩, .part rfl ?_⟩
  simp only [ClientTls.leaves, List.forall_mem_cons, List.not_mem_nil, false_imp_iff, implies_true,
    and_true]
  exact ⟨rfl, rfl, rfl⟩

/-- It holds those of a worker. -/
theorem Worker.holds_default (freshId : String) :
    ∀ l ∈ leaves, l.Holds (ofJson (default freshId).toJson) (default freshId) := by
  simp only [leaves, List.forall_mem_append, List.forall_mem_cons, List.not_mem_nil, false_imp_iff,
    implies_true, and_true]
  exact ⟨⟨rfl, rfl, rfl, rfl, rfl, rfl, rfl, rfl, rfl, rfl⟩, .part rfl Connection.holds_default⟩

/-- A count that fits is read back. -/
theorem count?_ofNat {bits n : Nat} (h : n < Bits.count bits) :
    lenient.count? bits (ofJson (Json.ofNat n)) = some n := by
  show Option.filter (fun m => decide (m < Bits.count bits)) (word? (integer n)) = some n
  simp only [word?, Int.natCast_nonneg, if_true, Int.toNat_natCast, Option.filter_some, h, decide_true]

/-- The document of a breaker whose counts fit holds its settings. -/
theorem Breaker.holds {b : Breaker} (fits : b.failureThreshold < Bits.count 32 ∧
      b.successThreshold < Bits.count 32 ∧ b.timeoutSeconds < Bits.count 64) :
    ∀ l ∈ leaves, l.Holds (ofJson b.toJson) b := by
  simp only [leaves, List.forall_mem_cons, List.not_mem_nil, false_imp_iff, implies_true, and_true]
  exact ⟨holds_of_at? rfl (count?_ofNat fits.1), holds_of_at? rfl (count?_ofNat fits.2.1),
    holds_of_at? rfl (count?_ofNat fits.2.2)⟩

/-- The document of the defaults holds those of the breakers. -/
theorem Breakers.holds_default :
    ∀ l ∈ leaves, l.Holds (ofJson (.object [("registration", default.registration.toJson),
      ("task_processing", default.taskProcessing.toJson), ("connection", default.connection.toJson)]))
      default := by
  simp only [leaves, List.forall_mem_append]
  exact ⟨⟨.part rfl (Breaker.holds (by decide)), .part rfl (Breaker.holds (by decide))⟩,
    .part rfl (Breaker.holds (by decide))⟩

/-- Whatever document has the defaults of a retry policy at its leaves holds them. -/
theorem Retry.holds_default {v : Layer}
    (attempts : at? ["max_attempts"] v = some (ofJson (Json.ofNat default.maxAttempts)))
    (initial : at? ["initial_delay_ms"] v = some (ofJson (Json.ofNat default.initialDelayMs)))
    (longest : at? ["max_delay_ms"] v = some (ofJson (Json.ofNat default.maxDelayMs)))
    (factor : at? ["backoff_factor"] v = some (ofJson (ofFloat default.backoffFactor)))
    (jitter : at? ["jitter"] v = some (ofJson (ofFloat default.jitter))) :
    ∀ l ∈ leaves, l.Holds v default := by
  simp only [leaves, List.forall_mem_cons, List.not_mem_nil, false_imp_iff, implies_true, and_true]
  exact ⟨holds_of_at? attempts rfl, holds_of_at? initial rfl, holds_of_at? longest rfl,
    holds_of_at? factor real?_ofFloat_default.1, holds_of_at? jitter real?_ofFloat_default.2⟩

/-- Every leaf of the defaults is read back from the document that they are laid as. -/
theorem holds_default (freshId : String) :
    ∀ l ∈ leaves, l.Holds (ofJson (Settings.default freshId).toJson) (Settings.default freshId) := by
  simp only [leaves, List.forall_mem_append]
  refine ⟨⟨⟨⟨?_, ?_⟩, ?_⟩, ?_⟩, ?_⟩
  · refine .part rfl ?_
    simp only [Logging.leaves, List.forall_mem_cons, List.not_mem_nil, false_imp_iff, implies_true,
      and_true]
    exact ⟨rfl, rfl⟩
  · exact .part rfl Coordinator.holds_default
  · exact .part rfl (Worker.holds_default freshId)
  · exact .part rfl (Retry.holds_default rfl rfl rfl rfl rfl)
  · exact .part rfl Breakers.holds_default

end

end WorkDispatch.Settings
