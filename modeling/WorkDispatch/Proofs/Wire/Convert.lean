import WorkDispatch.Wire.Convert

/-!
# Values survive the wire

What is made of a value for the wire, and what is read from there, undo each other wherever both sides
can hold the value. A point in time comes back as its seconds and nanoseconds, also in a leap second; a
member of a vocabulary as its number (`Numbered`); a set of capabilities as its numbers in order. Where
one side is narrower, what is lost is said in full: a number that names nothing is dropped from a set,
a counter beyond the range of the wire is the greatest of it, and a negative one is zero.

`conversions_faithful` puts this together. Nothing is said of the bytes, and nothing of a field that
was not written; a task whose item does not say when it was made counts as made when it is read.
-/

set_option autoImplicit false

namespace WorkDispatch.Wire

/-! ## Points in time -/

namespace Timestamp

/-- A point in time comes back over the wire. -/
theorem toInstant?_ofInstant (i : Instant) : (ofInstant i).toInstant? = some i := by
  obtain ⟨early, late, fraction⟩ := i.denotes
  have nanos : (Int32.ofInt (i.nanos : Int)).toInt = i.nanos :=
    Int32.toInt_ofInt_of_le (by omega) (by omega)
  have seconds : (Int64.ofInt i.seconds).toInt = i.seconds :=
    Int64.toInt_ofInt_of_le (by omega) (by omega)
  have whole : ¬ Int32.ofInt (i.nanos : Int) < 0 := by
    rw [Int32.lt_iff_toInt_lt, nanos]
    exact Int.not_lt.2 (Int.natCast_nonneg _)
  simp only [ofInstant, toInstant?, whole, if_false, seconds, nanos, Int.toNat_natCast,
    Instant.ofUnix?_self]

/-- What is read as a point in time is what it is written as. -/
theorem ofInstant_of_toInstant? {t : Timestamp} {i : Instant} (h : t.toInstant? = some i) :
    ofInstant i = t := by
  unfold toInstant? Instant.ofUnix? at h
  split at h
  · cases h
  · next nonneg =>
    split at h
    · next denotes =>
      obtain rfl := Option.some.inj h
      have lower : 0 ≤ t.nanos.toInt :=
        Int.not_lt.1 fun negative => nonneg (Int32.lt_iff_toInt_lt.2 negative)
      simp only [ofInstant, Int.toNat_of_nonneg lower, Int64.ofInt_toInt, Int32.ofInt_toInt]
    · cases h

/-- A timestamp denotes a point in time if and only if it is what is written of the point. -/
theorem toInstant?_eq_some_iff {t : Timestamp} {i : Instant} :
    t.toInstant? = some i ↔ ofInstant i = t := by
  constructor
  · exact ofInstant_of_toInstant?
  · rintro rfl
    exact toInstant?_ofInstant i

/-- The last leap second that there is. -/
example : (Timestamp.mk 8210266876799 1999999999).toInstant?.map ofInstant =
    some ⟨8210266876799, 1999999999⟩ := by decide +kernel

end Timestamp

/-- So does one that may be missing. -/
theorem instant?_ofInstant (i : Option Instant) : instant? (i.map Timestamp.ofInstant) = i := by
  cases i with
  | none => rfl
  | some i => exact Timestamp.toInstant?_ofInstant i

/-! ## Vocabularies -/

/-- Every member of a vocabulary has a number of its own, which the wire can hold. -/
structure Numbered (α : Type) [Named α] : Prop where
  complete : ∀ a : α, a ∈ Named.all
  distinct : (Named.all (α := α)).Nodup
  short : (Named.all (α := α)).length ≤ Bits.count31

section Numbered

variable {α : Type} [Named α] [DecidableEq α]

/-- The number of a member is one of those that are given. -/
theorem Numbered.number_lt (h : Numbered α) (a : α) :
    Named.number a < (Named.all (α := α)).length :=
  List.idxOf_lt_length_of_mem (h.complete a)

/-- It fits on the wire. -/
theorem Numbered.toInt_numberOf (h : Numbered α) (a : α) :
    (numberOf a).toInt = Named.number a := by
  have small : Named.number a < 2147483648 := Nat.lt_of_lt_of_le (h.number_lt a) h.short
  exact Int32.toInt_ofInt_of_le (by omega) (by omega)

/-- A member comes back from its number. -/
theorem Numbered.memberOf?_numberOf (h : Numbered α) (a : α) : memberOf? (numberOf a) = some a := by
  have nonneg : ¬ ((Named.number a : Nat) : Int) < 0 := Int.not_lt.2 (Int.natCast_nonneg _)
  rw [memberOf?, h.toInt_numberOf, Named.ofNumber?, if_neg nonneg, Int.toNat_natCast,
    List.getElem?_eq_getElem (h.number_lt a)]
  exact congrArg some (List.getElem_idxOf (h.number_lt a))

/-- Only its own number names a member. -/
theorem Numbered.numberOf_of_memberOf? (h : Numbered α) {n : Int32} {a : α}
    (named : memberOf? n = some a) : numberOf a = n := by
  unfold memberOf? Named.ofNumber? at named
  split at named
  · cases named
  · next nonneg =>
    obtain ⟨inside, rfl⟩ := List.getElem?_eq_some_iff.1 named
    have place : Named.number (Named.all (α := α))[n.toInt.toNat] = n.toInt.toNat :=
      h.distinct.idxOf_getElem _ inside
    rw [numberOf, place, Int.toNat_of_nonneg (Int.not_lt.1 nonneg), Int32.ofInt_toInt]

end Numbered

theorem numbered_capability : Numbered Capability :=
  ⟨fun c => by cases c <;> decide, by decide, by decide⟩

theorem numbered_taskType : Numbered TaskType :=
  ⟨fun t => by cases t <;> decide, by decide, by decide⟩

theorem numbered_taskStatus : Numbered TaskStatus :=
  ⟨fun s => by cases s <;> decide, by decide, by decide⟩

/-- A type of tasks comes back. -/
@[simp] theorem taskTypeOf_numberOf (t : TaskType) : taskTypeOf (numberOf t) = t := by
  rw [taskTypeOf, numbered_taskType.memberOf?_numberOf, Option.getD_some]

/-- So does a status. -/
@[simp] theorem taskStatusOf_numberOf (s : TaskStatus) : taskStatusOf (numberOf s) = s := by
  rw [taskStatusOf, numbered_taskStatus.memberOf?_numberOf, Option.getD_some]

/-! ## Sets of capabilities -/

/-- A set is that of its members. -/
theorem ofList_toList (s : CapabilitySet) : CapabilitySet.ofList s.toList = s := by
  have same := s.canonical
  cases s
  exact (CapabilitySet.mk.injEq ..).mpr same.symm

/-- Capabilities come back in their order. -/
theorem filterMap_memberOf?_numberOf (cs : List Capability) :
    (cs.map numberOf).filterMap memberOf? = cs := by
  have back : (fun c : Capability => memberOf? (numberOf c)) = some :=
    funext numbered_capability.memberOf?_numberOf
  rw [List.filterMap_map]
  exact (congrArg (fun f => cs.filterMap f) back).trans List.filterMap_some

/-- A set is read from its numbers. -/
theorem capabilitiesOf_capabilityNumbers (s : CapabilitySet) :
    capabilitiesOf (capabilityNumbers s) = s := by
  rw [capabilitiesOf, capabilityNumbers, filterMap_memberOf?_numberOf, ofList_toList]

/-- A set has the members that it is made of. -/
theorem mem_ofList {c : Capability} {cs : List Capability} :
    c ∈ (CapabilitySet.ofList cs).toList ↔ c ∈ cs := by
  rw [CapabilitySet.ofList, List.mem_filter, List.contains_iff_mem]
  exact and_iff_right (numbered_capability.complete c)

/-- The numbers that are written of a set that was read are those that name something. -/
theorem mem_capabilityNumbers_capabilitiesOf {n : Int32} {ns : List Int32} :
    n ∈ capabilityNumbers (capabilitiesOf ns) ↔ n ∈ ns ∧ ∃ c : Capability, numberOf c = n := by
  rw [capabilityNumbers, capabilitiesOf, List.mem_map]
  constructor
  · rintro ⟨c, read, rfl⟩
    obtain ⟨k, there, named⟩ := List.mem_filterMap.1 (mem_ofList.1 read)
    rw [numbered_capability.numberOf_of_memberOf? named]
    exact ⟨there, c, numbered_capability.numberOf_of_memberOf? named⟩
  · rintro ⟨there, c, rfl⟩
    have read := List.mem_filterMap.2 ⟨numberOf c, there, numbered_capability.memberOf?_numberOf c⟩
    exact ⟨c, mem_ofList.2 read, rfl⟩

/-- The numbers of a set ascend, and none comes twice. -/
theorem pairwise_capabilityNumbers (s : CapabilitySet) : (capabilityNumbers s).Pairwise (· < ·) := by
  have ascending : ((Named.all (α := Capability)).map numberOf).Pairwise (· < ·) := by decide
  have part : s.toList.Sublist (Named.all (α := Capability)) := by
    rw [s.canonical]
    exact List.filter_sublist
  exact ascending.sublist (part.map numberOf)

/-! ## Counters -/

/-- A count that is too great for the wire is the greatest there. -/
theorem toInt_clamp32 (n : UInt32) : (clamp32 n).toInt = (min n.toNat 2147483647 : Nat) := by
  have clamped : clamp32 n = Int32.ofInt (min n.toNat 2147483647 : Nat) := rfl
  rw [clamped, Int32.toInt_ofInt_of_le (by omega) (by omega)]

/-- So is a longer one. -/
theorem toInt_clamp64 (n : UInt64) : (clamp64 n).toInt = (min n.toNat 9223372036854775807 : Nat) := by
  have clamped : clamp64 n = Int64.ofInt (min n.toNat 9223372036854775807 : Nat) := rfl
  rw [clamped, Int64.toInt_ofInt_of_le (by omega) (by omega)]

/-- What is below zero on the wire counts as nothing. -/
theorem toNat_count32 (n : Int32) : (count32 n).toNat = n.toInt.toNat := by
  have upper := n.toInt_lt
  rw [count32, UInt32.toNat_ofNat', Nat.mod_eq_of_lt (by omega)]

/-- So does what is below zero in a longer field. -/
theorem toNat_count64 (n : Int64) : (count64 n).toNat = n.toInt.toNat := by
  have upper := n.toInt_lt
  rw [count64, UInt64.toNat_ofNat', Nat.mod_eq_of_lt (by omega)]

/-- A counter beyond the range of the wire is the greatest of it. -/
theorem count32_clamp32 (n : UInt32) : count32 (clamp32 n) = min n 2147483647 := by
  have least : (min n 2147483647).toNat = min n.toNat 2147483647 := by
    show (if n ≤ 2147483647 then n else 2147483647).toNat = _
    simp only [UInt32.le_iff_toNat_le, apply_ite UInt32.toNat]
    exact Nat.min_def.symm
  rw [← UInt32.toNat_inj, toNat_count32, toInt_clamp32, least, Int.toNat_natCast]

/-- A count comes back, but for what is too great. -/
theorem count64_clamp64 (n : UInt64) : count64 (clamp64 n) = min n 9223372036854775807 := by
  have least : (min n 9223372036854775807).toNat = min n.toNat 9223372036854775807 := by
    show (if n ≤ 9223372036854775807 then n else 9223372036854775807).toNat = _
    simp only [UInt64.le_iff_toNat_le, apply_ite UInt64.toNat]
    exact Nat.min_def.symm
  rw [← UInt64.toNat_inj, toNat_count64, toInt_clamp64, least, Int.toNat_natCast]

/-- A negative counter is zero. -/
theorem clamp32_count32 (n : Int32) : clamp32 (count32 n) = max n 0 := by
  have greatest : (max n 0).toInt = max n.toInt 0 := by
    show (if n ≤ 0 then 0 else n).toInt = if n.toInt ≤ 0 then 0 else n.toInt
    simp only [Int32.le_iff_toInt_le, Int32.toInt_zero, apply_ite Int32.toInt]
  have upper := n.toInt_lt
  rw [← Int32.toInt_inj, toInt_clamp32, toNat_count32, greatest]
  omega

/-- A number on the wire comes back, but for what is below zero. -/
theorem clamp64_count64 (n : Int64) : clamp64 (count64 n) = max n 0 := by
  have greatest : (max n 0).toInt = max n.toInt 0 := by
    show (if n ≤ 0 then 0 else n).toInt = if n.toInt ≤ 0 then 0 else n.toInt
    simp only [Int64.le_iff_toInt_le, Int64.toInt_zero, apply_ite Int64.toInt]
  have upper := n.toInt_lt
  rw [← Int64.toInt_inj, toInt_clamp64, toNat_count64, greatest]
  omega

/-! ## Whole values -/

/-- A task comes back. -/
theorem toTask_ofTask (t : Task) (now : Instant) : (TaskItem.ofTask t).toTask now = t := by
  simp only [TaskItem.ofTask, TaskItem.toTask, taskTypeOf_numberOf, instant?_ofInstant]
  rw [instant?, Option.bind_some, Timestamp.toInstant?_ofInstant, Option.getD_some]

/-- A result comes back. -/
theorem toResult_ofResult (r : TaskResult) : (ResultRequest.ofResult r).toResult = r := by
  simp only [ResultRequest.ofResult, ResultRequest.toResult, taskStatusOf_numberOf, instant?_ofInstant]

/-- Points in time, tasks, results and sets of capabilities come back from the wire as they were. A set
of capabilities is written as the known ones among the numbers that it was read from, ascending. A
counter is cut off at the end of the range that the other side does not have, and nothing else changes. -/
theorem conversions_faithful :
    (∀ (t : Timestamp) (i : Instant), t.toInstant? = some i ↔ Timestamp.ofInstant i = t) ∧
    (∀ (t : Task) (now : Instant), (TaskItem.ofTask t).toTask now = t) ∧
    (∀ r : TaskResult, (ResultRequest.ofResult r).toResult = r) ∧
    (∀ s : CapabilitySet, capabilitiesOf (capabilityNumbers s) = s) ∧
    (∀ ns : List Int32, (capabilityNumbers (capabilitiesOf ns)).Pairwise (· < ·) ∧
      ∀ n : Int32, n ∈ capabilityNumbers (capabilitiesOf ns) ↔
        n ∈ ns ∧ ∃ c : Capability, numberOf c = n) ∧
    (∀ s : WorkerStats, (Stats.ofStats s).toStats =
      { s with
        activeTasks := min s.activeTasks 2147483647
        completedTasks := min s.completedTasks 9223372036854775807
        failedTasks := min s.failedTasks 9223372036854775807
        memoryUsageBytes := min s.memoryUsageBytes 9223372036854775807
        uptimeSeconds := min s.uptimeSeconds 9223372036854775807 }) ∧
    ∀ s : Stats, Stats.ofStats s.toStats =
      { s with
        activeTasks := max s.activeTasks 0
        completedTasks := max s.completedTasks 0
        failedTasks := max s.failedTasks 0
        memoryUsageBytes := max s.memoryUsageBytes 0
        uptimeSeconds := max s.uptimeSeconds 0 } := by
  refine ⟨fun t i => Timestamp.toInstant?_eq_some_iff, toTask_ofTask, toResult_ofResult,
    capabilitiesOf_capabilityNumbers, fun ns => ?_, fun s => ?_, fun s => ?_⟩
  · exact ⟨pairwise_capabilityNumbers _, fun n => mem_capabilityNumbers_capabilitiesOf⟩
  · simp only [Stats.ofStats, Stats.toStats, count32_clamp32, count64_clamp64]
  · simp only [Stats.ofStats, Stats.toStats, clamp32_count32, clamp64_count64]

/-- Of numbers in disorder, some of them twice or unknown, the known ones are left. -/
example : capabilityNumbers (capabilitiesOf [4, 42, 0, -1, 2, 4, 5]) = [0, 2, 4] := by decide +kernel

end WorkDispatch.Wire
