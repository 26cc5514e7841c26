/-!
Labels: texts kept under texts, each key once. Entries are held in the order of their keys, so two
label sets with the same entries are equal. `get?_insert` says what an insertion changes.
-/

set_option autoImplicit false

namespace WorkDispatch

namespace Labels

/-- Puts an entry where its key belongs, in place of an entry of the same key. -/
def place (k v : String) : List (String × String) → List (String × String)
  | [] => [(k, v)]
  | e :: es =>
    if k < e.1 then (k, v) :: e :: es
    else if k = e.1 then (k, v) :: es
    else e :: place k v es

/-- Keys ascend strictly. -/
def Ascending (es : List (String × String)) : Prop := es.Pairwise fun a b => a.1 < b.1

instance (es : List (String × String)) : Decidable (Ascending es) :=
  inferInstanceAs (Decidable (es.Pairwise _))

/-- What is in the list after a label was placed is that label or was there before. -/
theorem mem_place {k v : String} {e : String × String} :
    ∀ {es : List (String × String)}, e ∈ place k v es → e = (k, v) ∨ e ∈ es
  | [], h => .inl (List.mem_singleton.1 h)
  | d :: ds, h => by
    simp only [place] at h
    split at h
    · exact List.mem_cons.1 h
    · split at h
      · exact (List.mem_cons.1 h).imp_right (List.mem_cons_of_mem d)
      · rcases List.mem_cons.1 h with rfl | h
        · exact .inr List.mem_cons_self
        · exact (mem_place h).imp_right (List.mem_cons_of_mem d)

/-- Placing a label keeps the list in the order of its names. -/
theorem ascending_place (k v : String) :
    ∀ {es : List (String × String)}, Ascending es → Ascending (place k v es)
  | [], _ => List.pairwise_singleton _ _
  | e :: es, h => by
    have hcons := List.pairwise_cons.1 h
    simp only [place]
    split
    · next hlt =>
      refine List.pairwise_cons.2 ⟨fun d hd => ?_, h⟩
      rcases List.mem_cons.1 hd with rfl | hd
      · exact hlt
      · exact String.lt_trans hlt (hcons.1 d hd)
    · next hge =>
      split
      · next heq => exact List.pairwise_cons.2 ⟨fun d hd => heq ▸ hcons.1 d hd, hcons.2⟩
      · next hne =>
        refine List.pairwise_cons.2 ⟨fun d hd => ?_, ascending_place k v hcons.2⟩
        rcases mem_place hd with rfl | hd
        · exact Std.lt_of_le_of_ne (Std.not_lt.1 hge) (fun h => hne h.symm)
        · exact hcons.1 d hd

end Labels

/-- Texts kept under texts. -/
structure Labels where
  entries : List (String × String)
  ascending : Labels.Ascending entries
  deriving DecidableEq

namespace Labels

/-- No entries. -/
def empty : Labels := ⟨[], .nil⟩

instance : Inhabited Labels := ⟨empty⟩

/-- Keeps a text under a key, in place of what was kept there. -/
def insert (m : Labels) (k v : String) : Labels := ⟨place k v m.entries, ascending_place k v m.ascending⟩

/-- Inserts entries one after the other, so that of one key's entries the last stays. -/
def ofList (es : List (String × String)) : Labels := es.foldl (fun m e => m.insert e.1 e.2) empty

/-- What is kept under a key. -/
def get? (m : Labels) (k : String) : Option String := m.entries.lookup k

theorem lookup_cons_eq (e : String × String) (es : List (String × String)) (j : String) :
    (e :: es).lookup j = if j = e.1 then some e.2 else es.lookup j := by
  change (match j == e.1 with | true => some e.2 | false => es.lookup j) = _
  split
  · next h => rw [if_pos (eq_of_beq h)]
  · next h => rw [if_neg (ne_of_beq_false h)]

/-- A label that was placed is found under its name, and the others as before. -/
theorem lookup_place (k v j : String) :
    ∀ es : List (String × String), (place k v es).lookup j = if j = k then some v else es.lookup j
  | [] => by rw [place, lookup_cons_eq]
  | e :: es => by
    simp only [place]
    split
    · rw [lookup_cons_eq]
    · split
      · next heq => subst heq; simp only [lookup_cons_eq]; split <;> rfl
      · next hne =>
        simp only [lookup_cons_eq, lookup_place k v j es]
        split
        · next h => subst h; rw [if_neg (fun h => hne h.symm)]
        · rfl

/-- An inserted label is found under its name, and the others as before. -/
@[simp] theorem get?_insert (m : Labels) (k v j : String) :
    (m.insert k v).get? j = if j = k then some v else m.get? j :=
  lookup_place k v j m.entries

end Labels

end WorkDispatch
