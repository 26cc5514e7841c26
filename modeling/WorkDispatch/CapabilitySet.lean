import WorkDispatch.Vocabulary

/-!
Sets of capabilities. A set is the list of its members in the order of the vocabulary, so two sets
with the same members are equal.
-/

set_option autoImplicit false

namespace WorkDispatch

/-- The capabilities that a worker declared. -/
structure CapabilitySet where
  toList : List Capability
  canonical : toList = (Named.all (α := Capability)).filter fun c => toList.contains c
  deriving DecidableEq

namespace CapabilitySet

/-- The set of the capabilities of a list. -/
def ofList (cs : List Capability) : CapabilitySet where
  toList := (Named.all (α := Capability)).filter fun c => cs.contains c
  canonical := by
    refine List.filter_congr fun c hc => ?_
    have h : (List.filter (fun d => cs.contains d) Named.all).contains c = cs.contains c := by
      by_cases hcs : cs.contains c
      · rw [hcs]; exact List.contains_iff_mem.2 (List.mem_filter.2 ⟨hc, hcs⟩)
      · have hf : cs.contains c = false := by simpa using hcs
        rw [hf]
        refine Bool.eq_false_iff.2 fun hm => ?_
        have := (List.mem_filter.1 (List.contains_iff_mem.1 hm)).2
        simp_all
    exact h.symm

/-- The set without members. -/
def empty : CapabilitySet := ofList []

instance : Inhabited CapabilitySet := ⟨empty⟩

def contains (s : CapabilitySet) (c : Capability) : Bool := s.toList.contains c

/-- Whether a worker with these capabilities may be given a task of a type. -/
def canHandle (s : CapabilitySet) (t : TaskType) : Bool :=
  match t.required? with
  | some c => s.contains c
  | none => true

end CapabilitySet

end WorkDispatch
