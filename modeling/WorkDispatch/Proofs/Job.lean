import Mathlib.Data.List.Nodup
import WorkDispatch.Job
import WorkDispatch.Proofs.Json.RoundTrip
import WorkDispatch.Proofs.Time.Rfc3339

/-!
# Jobs are read as they were written

A document is written with the members of its record alone, each of them once, so that the reader of
a record finds all of them (`known?_scanned`). Every job is read back from its bytes: whatever is in
its texts, whether there is a context or none, and in whichever year a week lies.
-/

set_option autoImplicit false

namespace WorkDispatch

open Json Text

/-! ## Members -/

namespace Json

/-- Members are scanned one by one. -/
theorem scannedMembers_eq (ms : List (String × Json)) :
    scannedMembers ms = ms.map fun m => (raw m.1, scanned m.2) := by
  induction ms with
  | nil => rfl
  | cons m ms ih => rw [scannedMembers, ih, List.map_cons]

/-- A reader that reads every item of a list reads the list. -/
theorem mapM_map {α β γ : Type} (f : α → β) (g : α → γ) (read : β → Option γ)
    (h : ∀ a, read (f a) = some (g a)) (as : List α) :
    (as.map f).mapM read = some (as.map g) := by
  induction as with
  | nil => rfl
  | cons a as ih =>
    rw [List.map_cons, List.mapM_cons, h, ih]
    rfl

/-- A list is read back when each of its elements is. -/
theorem mapM_map_self {α β : Type} (f : α → β) (read : β → Option α)
    (h : ∀ a, read (f a) = some a) (as : List α) : (as.map f).mapM read = some as := by
  have all := mapM_map f id read h as
  rw [List.map_id] at all
  exact all

section

variable {α : Type} (names : List String) (ms : List (String × α))

/-- No member of a known name is left out. -/
theorem filter_own (own : ∀ k ∈ ms.map (·.1), k ∈ names) :
    ms.filter (fun m => names.contains m.1) = ms := by
  rw [List.filter_eq_self]
  intro m hm
  exact List.contains_iff_mem.2 (own m.1 (List.mem_map_of_mem hm))

/-- Names that come once are not repeated. -/
theorem any_repeated (once : (ms.map (·.1)).Nodup) :
    (names.any fun n => 1 < (ms.filter fun m => m.1 == n).length) = false := by
  rw [List.any_eq_false]
  intro n _
  have count := List.nodup_iff_count_le_one.1 once n
  rw [List.count, List.countP_map] at count
  rw [decide_eq_true_eq, ← List.countP_eq_length_filter]
  exact Nat.not_lt.2 count

end

/-- The members of a record are found, when each of them is one that it has and none comes twice. -/
theorem known?_scanned {names : List String} {ms : List (String × Json)}
    (own : ∀ k ∈ ms.map (·.1), k ∈ names) (once : (ms.map (·.1)).Nodup) :
    known? names (scanned (.object ms)) = some (.object ms) := by
  have keys : (ms.map fun m => (m.1, scanned m.2)).map (·.1) = ms.map (·.1) := List.map_map
  have named := mapM_map (fun m : String × Json => (raw m.1, scanned m.2))
    (fun m => (m.1, scanned m.2)) (fun m => (text? m.1).map fun k => (k, m.2))
    (fun m => by rw [text?_raw]; rfl) ms
  have wanted := filter_own names (ms.map fun m => (m.1, scanned m.2)) (by rwa [keys])
  have repeated := any_repeated names (ms.map fun m => (m.1, scanned m.2)) (by rwa [keys])
  have read := mapM_map_self (fun m : String × Json => (m.1, scanned m.2))
    (fun m => m.2.read?.map fun x => (m.1, x)) (fun m => by rw [read?_scanned]; rfl) ms
  rw [scanned, scannedMembers_eq, known?]
  simp only [named, wanted, repeated, read, Option.bind_eq_bind, Option.bind_some, Bool.false_eq_true,
    if_false]

/-- A record whose members are its own is read as them. -/
theorem fields?_object {names : List String} {ms : List (String × Json)}
    (own : ∀ k ∈ ms.map (·.1), k ∈ names) : fields? names (.object ms) = some ⟨names, ms, false⟩ := by
  rw [fields?, filter_own names ms own]

/-- A list of texts is read back. -/
theorem asList?_ofStrings (xs : List String) : asList? asString? (ofStrings xs) = some xs :=
  mapM_map_self (fun x : String => (.string x : Json)) asString? (fun _ => rfl) xs

/-- A point in time is read back. -/
theorem asInstant?_ofInstant (i : Instant) : asInstant? (ofInstant i) = some i := by
  simp only [asInstant?, ofInstant, asString?, Option.bind_some, Instant.read?_text]

/-- Points in time with the same document are the same. -/
theorem ofInstant_inj {i j : Instant} : ofInstant i = ofInstant j ↔ i = j := by
  refine ⟨fun same => ?_, congrArg ofInstant⟩
  have read := congrArg asInstant? same
  rwa [asInstant?_ofInstant, asInstant?_ofInstant, Option.some_inj] at read

end Json

/-! ## Insights -/

namespace InsightJob

/-- The members of a job's document. -/
def members (j : InsightJob) : List (String × Json) :=
  [("user_id", .string j.userId), ("entry_ids", ofStrings j.entryIds),
    ("insight_type", .string j.insightType)] ++
  match j.context with
  | some c => [("context", .string c)]
  | none => []

theorem members_own (j : InsightJob) : ∀ k ∈ j.members.map (·.1), k ∈ fieldNames := by
  obtain ⟨user, ids, kind, context⟩ := j
  cases context with
  | none =>
    show ∀ k ∈ ["user_id", "entry_ids", "insight_type"], k ∈ fieldNames
    decide
  | some c =>
    show ∀ k ∈ ["user_id", "entry_ids", "insight_type", "context"], k ∈ fieldNames
    decide

theorem members_once (j : InsightJob) : (j.members.map (·.1)).Nodup := by
  obtain ⟨user, ids, kind, context⟩ := j
  cases context with
  | none =>
    show ["user_id", "entry_ids", "insight_type"].Nodup
    decide
  | some c =>
    show ["user_id", "entry_ids", "insight_type", "context"].Nodup
    decide

/-- A job is read from its members. -/
theorem ofJson?_members (j : InsightJob) : ofJson? (.object j.members) = some j := by
  have fields := fields?_object j.members_own
  obtain ⟨user, ids, kind, context⟩ := j
  cases context with
  | none =>
    have entries : Fields.get? ⟨fieldNames, members ⟨user, ids, kind, none⟩, false⟩ "entry_ids" =
      some (ofStrings ids) := rfl
    simp only [ofJson?, fields, Fields.required, entries, asList?_ofStrings, Option.bind_eq_bind,
      Option.bind_some]
    rfl
  | some c =>
    have entries : Fields.get? ⟨fieldNames, members ⟨user, ids, kind, some c⟩, false⟩ "entry_ids" =
      some (ofStrings ids) := rfl
    simp only [ofJson?, fields, Fields.required, entries, asList?_ofStrings, Option.bind_eq_bind,
      Option.bind_some]
    rfl

/-- Every request for an insight is read back from its bytes. -/
theorem decode?_encode (j : InsightJob) : decode? j.encode = some j := by
  have document : j.toJson = .object j.members := rfl
  have known := known?_scanned j.members_own j.members_once
  simp only [encode, decode?, scan?_write, document, known, ofJson?_members, Option.bind_eq_bind,
    Option.bind_some]

end InsightJob

/-! ## Weekly reports -/

namespace WeeklyJob

/-- The members of a job's document. -/
def members (j : WeeklyJob) : List (String × Json) :=
  [("user_id", .string j.userId), ("week_start", ofInstant j.weekStart),
    ("week_end", ofInstant j.weekEnd)]

theorem members_own (j : WeeklyJob) : ∀ k ∈ j.members.map (·.1), k ∈ fieldNames := by
  show ∀ k ∈ ["user_id", "week_start", "week_end"], k ∈ fieldNames
  decide

theorem members_once (j : WeeklyJob) : (j.members.map (·.1)).Nodup := by
  show ["user_id", "week_start", "week_end"].Nodup
  decide

theorem ofJson?_members (j : WeeklyJob) : ofJson? (.object j.members) = some j := by
  have fields := fields?_object j.members_own
  have user : Fields.get? ⟨fieldNames, j.members, false⟩ "user_id" = some (.string j.userId) := rfl
  have starts : Fields.get? ⟨fieldNames, j.members, false⟩ "week_start" =
    some (ofInstant j.weekStart) := rfl
  have ends : Fields.get? ⟨fieldNames, j.members, false⟩ "week_end" =
    some (ofInstant j.weekEnd) := rfl
  simp only [ofJson?, fields, Fields.required, user, starts, ends, asString?, asInstant?_ofInstant,
    Option.bind_eq_bind, Option.bind_some]

/-- Every request for a weekly report is read back from its bytes. -/
theorem decode?_encode (j : WeeklyJob) : decode? j.encode = some j := by
  have document : j.toJson = .object j.members := rfl
  have known := known?_scanned j.members_own j.members_once
  simp only [encode, decode?, scan?_write, document, known, ofJson?_members, Option.bind_eq_bind,
    Option.bind_some]

end WeeklyJob

end WorkDispatch
