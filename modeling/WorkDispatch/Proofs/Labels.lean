import WorkDispatch.Labels
import WorkDispatch.Table

/-!
# Labels in any order

Labels are held in the order of their keys, but they may be inserted in any other:
`ofList_perm` says that inserting the entries of a label set, however they are ordered, makes the
set again. Two lists in order that have the same entries are the same, so it is enough that no
insertion loses an entry or adds another. For the same reason labels are told apart by what is kept under
their keys (`eq_of_get?`), and what is kept is what was inserted (`get?_ofList`).
-/

set_option autoImplicit false

namespace WorkDispatch.Labels

/-- Inserts entries one after the other. -/
def insertAll (m : Labels) (es : List (String × String)) : Labels :=
  es.foldl (fun m e => m.insert e.1 e.2) m

/-- A new key comes beside the entries that were there. -/
theorem place_perm {k v : String} :
    ∀ {es : List (String × String)}, k ∉ es.map Prod.fst → (place k v es).Perm ((k, v) :: es)
  | [], _ => .refl _
  | e :: es, h => by
    rw [List.map_cons, List.mem_cons, not_or] at h
    unfold place
    split
    · exact .refl _
    · rw [if_neg h.1]
      exact ((place_perm h.2).cons e).trans (.swap _ _ _)

/-- Labels of different names are all kept when they are inserted. -/
theorem insertAll_entries_perm (es : List (String × String)) (m : Labels)
    (h : ((m.entries ++ es).map Prod.fst).Nodup) :
    (m.insertAll es).entries.Perm (m.entries ++ es) := by
  induction es generalizing m with
  | nil =>
    rw [List.append_nil]
    exact .refl _
  | cons e es ih =>
    have placed : (m.insert e.1 e.2).entries.Perm (e :: m.entries) := by
      refine place_perm fun hm => ?_
      rw [List.map_append, List.map_cons] at h
      exact (List.nodup_append.1 h).2.2 e.1 hm e.1 List.mem_cons_self rfl
    have moved : ((m.insert e.1 e.2).entries ++ es).Perm (m.entries ++ e :: es) :=
      (placed.append_right es).trans List.perm_middle.symm
    exact (ih (m.insert e.1 e.2) ((moved.map Prod.fst).nodup_iff.2 h)).trans moved

/-- In an ascending list no name comes twice. -/
theorem ascending_nodup {es : List (String × String)} (h : Ascending es) :
    (es.map Prod.fst).Nodup :=
  List.pairwise_map.2 (h.imp fun lt => String.ne_of_lt lt)

/-- Labels with the same entries are the same. -/
theorem eq_of_perm {m n : Labels} (h : m.entries.Perm n.entries) : m = n := by
  have entries : m.entries = n.entries := by
    refine h.eq_of_pairwise (fun a b _ _ ab ba => ?_) m.ascending n.ascending
    exact absurd (String.lt_trans ab ba) (String.lt_irrefl a.1)
  cases m with
  | mk es hes =>
    cases n with
    | mk fs hfs =>
      cases entries
      rfl

/-- The entries of a label set, inserted in any order, make the set again. -/
theorem ofList_perm {es : List (String × String)} {m : Labels} (h : es.Perm m.entries) :
    ofList es = m := by
  have keys : (es.map Prod.fst).Nodup := (h.map Prod.fst).nodup_iff.2 (ascending_nodup m.ascending)
  exact eq_of_perm ((insertAll_entries_perm es empty keys).trans h)

/-- Of labels that are inserted, each is found under its name, and the others as before. -/
theorem get?_insertAll {es : List (String × String)} (nodup : (es.map Prod.fst).Nodup) (m : Labels)
    (k : String) : (m.insertAll es).get? k = (es.lookup k <|> m.get? k) := by
  induction es generalizing m with
  | nil => rfl
  | cons e es ih =>
    rw [List.map_cons, List.nodup_cons] at nodup
    have rest : (m.insertAll (e :: es)).get? k = (es.lookup k <|> (m.insert e.1 e.2).get? k) :=
      ih nodup.2 (m.insert e.1 e.2)
    rw [rest, get?_insert, lookup_cons_eq]
    split
    · next own =>
      subst own
      have once : es.lookup e.1 = none :=
        List.lookup_eq_none_iff.mpr fun d hd => bne_iff_ne.mpr fun same =>
          nodup.1 (List.mem_map.mpr ⟨d, hd, same.symm⟩)
      rw [once]
      rfl
    · rfl

/-- What is kept under a key is what was inserted under it. -/
theorem get?_ofList {es : List (String × String)} (nodup : (es.map Prod.fst).Nodup) (k : String) :
    (ofList es).get? k = es.lookup k := by
  have kept : (ofList es).get? k = (es.lookup k <|> none) := get?_insertAll nodup empty k
  rw [kept]
  cases es.lookup k with
  | none | some => rfl

/-- Labels that keep the same under every key are the same. -/
theorem eq_of_get? {m n : Labels} (h : ∀ k, m.get? k = n.get? k) : m = n := by
  have hm := ascending_nodup m.ascending
  have hn := ascending_nodup n.ascending
  have entries (l : Labels) : l.entries.Nodup :=
    List.Pairwise.imp (fun lt same => String.ne_of_lt lt (congrArg Prod.fst same)) l.ascending
  refine eq_of_perm ((List.perm_ext_iff_of_nodup (entries m) (entries n)).mpr fun e => ?_)
  have same := h e.1
  unfold get? at same
  rw [Table.mem_iff_lookup hm, Table.mem_iff_lookup hn, same]

end WorkDispatch.Labels
