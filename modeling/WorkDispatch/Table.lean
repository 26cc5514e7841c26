/-!
Tables: values kept under texts, each key once, in the order in which the keys first came. `get?_put`,
`get?_erase` and `get?_mapValues` say what the changes do, `size_put` and `size_erase` how many entries
there are after them, and `keys_put_of_mem`, `keys_put_of_notMem` and `keys_erase` which keys.
-/

set_option autoImplicit false

namespace WorkDispatch

namespace Table

variable {α : Type}

/-- The entries with a value under a key, in place of the one that was there. -/
def putEntry (k : String) (v : α) : List (String × α) → List (String × α)
  | [] => [(k, v)]
  | e :: es => if e.1 = k then (k, v) :: es else e :: putEntry k v es

/-- Putting adds the key, if it was not there. -/
theorem mem_keys_putEntry {k j : String} {v : α} :
    ∀ {es : List (String × α)}, j ∈ (putEntry k v es).map (·.1) ↔ j = k ∨ j ∈ es.map (·.1)
  | [] => by simp [putEntry]
  | e :: es => by
    simp only [putEntry]
    split
    · next h => subst h; simp
    · simp only [List.map_cons, List.mem_cons, mem_keys_putEntry]
      constructor
      · rintro (h | h | h)
        · exact .inr (.inl h)
        · exact .inl h
        · exact .inr (.inr h)
      · rintro (h | h | h)
        · exact .inr (.inl h)
        · exact .inl h
        · exact .inr (.inr h)

/-- Putting makes no key twice. -/
theorem nodup_putEntry (k : String) (v : α) :
    ∀ {es : List (String × α)}, (es.map (·.1)).Nodup → ((putEntry k v es).map (·.1)).Nodup
  | [], _ => by simp [putEntry]
  | e :: es, h => by
    simp only [putEntry]
    split
    · next heq => subst heq; exact h
    · next hne =>
      simp only [List.map_cons, List.nodup_cons] at h ⊢
      refine ⟨fun hm => ?_, nodup_putEntry k v h.2⟩
      rcases mem_keys_putEntry.1 hm with h' | h'
      · exact hne h'
      · exact h.1 h'

theorem lookup_cons (e : String × α) (es : List (String × α)) (j : String) :
    (e :: es).lookup j = if j = e.1 then some e.2 else es.lookup j := by
  change (match j == e.1 with | true => some e.2 | false => es.lookup j) = _
  split
  · next h => rw [if_pos (eq_of_beq h)]
  · next h => rw [if_neg (ne_of_beq_false h)]

/-- What is in a list of different keys is what is found there. -/
theorem mem_iff_lookup {k : String} {v : α} :
    ∀ {es : List (String × α)}, (es.map (·.1)).Nodup → ((k, v) ∈ es ↔ es.lookup k = some v)
  | [], _ => by simp
  | e :: es, h => by
    rw [List.map_cons, List.nodup_cons] at h
    rw [List.mem_cons, lookup_cons]
    split
    · next own =>
      subst own
      have other : (e.1, v) ∉ es := fun hm => h.1 (List.mem_map.mpr ⟨_, hm, rfl⟩)
      simp only [other, or_false, Option.some.injEq, Prod.ext_iff, true_and, eq_comm]
    · next other => simp only [Prod.ext_iff, other, false_and, false_or, mem_iff_lookup h.2]

/-- What was put is found, and the others as before. -/
theorem lookup_putEntry (k j : String) (v : α) :
    ∀ es : List (String × α), (putEntry k v es).lookup j = if j = k then some v else es.lookup j
  | [] => by rw [putEntry, lookup_cons]
  | e :: es => by
    simp only [putEntry]
    split
    · next heq => subst heq; simp only [lookup_cons]; split <;> rfl
    · next hne =>
      simp only [lookup_cons, lookup_putEntry k j v es]
      split
      · next h => subst h; rw [if_neg hne]
      · rfl

theorem lookup_map (f : α → α) (j : String) :
    ∀ es : List (String × α), (es.map fun e => (e.1, f e.2)).lookup j = (es.lookup j).map f
  | [] => rfl
  | e :: es => by
    simp only [List.map_cons, lookup_cons, lookup_map f j es]
    split <;> rfl

theorem lookup_filter_ne (k j : String) :
    ∀ es : List (String × α),
      (es.filter fun e => e.1 != k).lookup j = if j = k then none else es.lookup j
  | [] => by simp
  | e :: es => by
    simp only [List.filter_cons]
    split
    · next h =>
      have hne : e.1 ≠ k := by simpa using h
      simp only [lookup_cons, lookup_filter_ne k j es]
      split
      · next h => subst h; rw [if_neg hne]
      · rfl
    · next h =>
      have heq : e.1 = k := by simpa using h
      rw [lookup_filter_ne k j es, lookup_cons, heq]
      split
      · rfl
      · rfl

theorem length_putEntry {k : String} (v : α) :
    ∀ {es : List (String × α)}, es.lookup k = none → (putEntry k v es).length = es.length + 1
  | [], _ => rfl
  | e :: es, h => by
    rw [lookup_cons] at h
    split at h
    · cases h
    · next hne =>
      rw [putEntry, if_neg (Ne.symm hne), List.length_cons, length_putEntry v h, List.length_cons]

/-- Putting under a key that is there leaves the keys. -/
theorem map_fst_putEntry_of_mem {k : String} (v : α) :
    ∀ {es : List (String × α)}, k ∈ es.map (·.1) → (putEntry k v es).map (·.1) = es.map (·.1)
  | [], h => by cases h
  | e :: es, h => by
    rw [putEntry]
    split
    · next own => rw [List.map_cons, List.map_cons, own]
    · next other =>
      have rest := (List.mem_cons.1 h).resolve_left (Ne.symm other)
      rw [List.map_cons, List.map_cons, map_fst_putEntry_of_mem v rest]

/-- Putting under another adds it at the end. -/
theorem map_fst_putEntry_of_notMem {k : String} (v : α) :
    ∀ {es : List (String × α)}, k ∉ es.map (·.1) → (putEntry k v es).map (·.1) = es.map (·.1) ++ [k]
  | [], _ => rfl
  | e :: es, h => by
    rw [List.map_cons, List.mem_cons, not_or] at h
    rw [putEntry, if_neg (Ne.symm h.1), List.map_cons, List.map_cons, map_fst_putEntry_of_notMem v h.2]
    rfl

/-- One entry less is there after a key was taken out. -/
theorem length_filter_ne {k : String} {v : α} :
    ∀ {es : List (String × α)}, (es.map (·.1)).Nodup → es.lookup k = some v →
      (es.filter fun e => e.1 != k).length + 1 = es.length
  | [], _, h => by cases h
  | e :: es, hn, h => by
    rw [List.map_cons, List.nodup_cons] at hn
    rw [lookup_cons] at h
    rw [List.filter_cons]
    split at h
    · next heq =>
      -- The key is not among those that follow, so all of them stay.
      have others : ∀ p ∈ es, (p.1 != k) = true := by
        intro p hp
        refine bne_iff_ne.mpr ?_
        rintro rfl
        exact hn.1 (List.mem_map.mpr ⟨p, hp, heq⟩)
      have own : (e.1 != k) = false := by simp [heq]
      rw [own, List.filter_eq_self.mpr others]
      rfl
    · next hne =>
      have other : (e.1 != k) = true := bne_iff_ne.mpr (Ne.symm hne)
      rw [other, if_pos rfl, List.length_cons, length_filter_ne hn.2 h, List.length_cons]

end Table

/-- Values kept under texts. -/
structure Table (α : Type) where
  entries : List (String × α)
  nodup : (entries.map (·.1)).Nodup

namespace Table

variable {α : Type}

/-- The table without entries. -/
def empty : Table α := ⟨[], .nil⟩

instance : Inhabited (Table α) := ⟨empty⟩

/-- What is kept under a key. -/
def get? (t : Table α) (k : String) : Option α := t.entries.lookup k

/-- Keeps a value under a key, in place of what was kept there. -/
def put (t : Table α) (k : String) (v : α) : Table α := ⟨putEntry k v t.entries, nodup_putEntry k v t.nodup⟩

/-- Keeps nothing under a key. -/
def erase (t : Table α) (k : String) : Table α where
  entries := t.entries.filter fun e => e.1 != k
  nodup := (List.filter_sublist.map _).nodup t.nodup

/-- The table with every value changed. -/
def mapValues (t : Table α) (f : α → α) : Table α where
  entries := t.entries.map fun e => (e.1, f e.2)
  nodup := by
    have h : (t.entries.map fun e => (e.1, f e.2)).map (·.1) = t.entries.map (·.1) := by
      rw [List.map_map]; rfl
    rw [h]; exact t.nodup

def keys (t : Table α) : List String := t.entries.map (·.1)

def values (t : Table α) : List α := t.entries.map (·.2)

def size (t : Table α) : Nat := t.entries.length

/-- The entries of a table are what is found in it. -/
theorem mem_entries {t : Table α} {k : String} {v : α} : (k, v) ∈ t.entries ↔ t.get? k = some v :=
  mem_iff_lookup t.nodup

@[simp] theorem get?_empty (j : String) : (empty : Table α).get? j = none := rfl

/-- What was put is found, and the others as before. -/
@[simp] theorem get?_put (t : Table α) (k j : String) (v : α) :
    (t.put k v).get? j = if j = k then some v else t.get? j :=
  lookup_putEntry k j v t.entries

/-- What was erased is not found, and the others are as before. -/
@[simp] theorem get?_erase (t : Table α) (k j : String) :
    (t.erase k).get? j = if j = k then none else t.get? j :=
  lookup_filter_ne k j t.entries

/-- A new key makes the table larger by one. -/
theorem size_put {t : Table α} {k : String} (v : α) (h : t.get? k = none) :
    (t.put k v).size = t.size + 1 :=
  length_putEntry v h

/-- A key that is erased makes it smaller by one. -/
theorem size_erase {t : Table α} {k : String} {v : α} (h : t.get? k = some v) :
    (t.erase k).size + 1 = t.size :=
  length_filter_ne t.nodup h

theorem length_keys (t : Table α) : t.keys.length = t.size := List.length_map _

theorem mem_keys {t : Table α} {k : String} : k ∈ t.keys ↔ ∃ v, t.get? k = some v := by
  constructor
  · intro h
    obtain ⟨⟨k, v⟩, hm, rfl⟩ := List.mem_map.1 h
    exact ⟨v, mem_entries.1 hm⟩
  · rintro ⟨v, h⟩
    exact List.mem_map.2 ⟨(k, v), mem_entries.2 h, rfl⟩

/-- Putting under a key that is there leaves the keys. -/
theorem keys_put_of_mem {t : Table α} {k : String} (v : α) (h : k ∈ t.keys) : (t.put k v).keys = t.keys :=
  map_fst_putEntry_of_mem v h

/-- Putting under another adds it at the end. -/
theorem keys_put_of_notMem {t : Table α} {k : String} (v : α) (h : k ∉ t.keys) :
    (t.put k v).keys = t.keys ++ [k] :=
  map_fst_putEntry_of_notMem v h

theorem keys_erase (t : Table α) (k : String) : (t.erase k).keys = t.keys.filter (· != k) := by
  rw [keys, keys, List.filter_map]
  rfl

@[simp] theorem get?_mapValues (t : Table α) (f : α → α) (j : String) :
    (t.mapValues f).get? j = (t.get? j).map f :=
  lookup_map f j t.entries

end Table

end WorkDispatch
