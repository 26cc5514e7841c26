import WorkDispatch.Settings.Key
import WorkDispatch.Table

/-!
# What laying one layer over another changes

A layer is a tree of tables, and a path of keys leads to a place in it (`at?`). All that is ever done to a
tree when something is laid over it is to put a value at a path (`put`), so three laws say everything:
what is below the path is in the value, what is above it is a table on the way to it, and everything
apart from it stays.

A source is a list of entries with tables in them. `marksOfAll` lists what it tells of which path, in order;
a table tells something of itself only when it has no entries, and that is that it is a table.
`laid_layPaths` says that to lay a source over a layer is to put its marks one after the other. So of a
path that is `Clear` of what is told above it, only the last value that is told of it matters
(`at?_of_laid`): what is told of other paths, at any depth, changes nothing there. And whatever is laid, no
table gets a key twice by it (`noRepeats_of_laid`).
-/

set_option autoImplicit false

namespace WorkDispatch.Settings.Layer

/-! ## Paths -/

/-- What a path of keys leads to, through tables. -/
def at? : List String → Layer → Option Layer
  | [], v => some v
  | k :: p, v => (v.entries.lookup k).bind (at? p)

/-- What a path leads to from what may be missing. -/
def from? (p : List String) (was : Option Layer) : Option Layer := was.bind (at? p)

/-- Puts a value at a path. What is no table on the way gives way to one. -/
def put : List String → Layer → Option Layer → Layer
  | [], v, _ => v
  | k :: p, v, was => table (alter k (put p v) (was.getD null).entries)

theorem alter_eq_putEntry (k : String) (f : Option Layer → Layer) (es : List (String × Layer)) :
    alter k f es = Table.putEntry k (f (es.lookup k)) es := by
  induction es with
  | nil => rfl
  | cons e es ih =>
    unfold alter Table.putEntry
    rw [Table.lookup_cons]
    split
    · next same => rw [if_pos same.symm]
    · next other => rw [if_neg (Ne.symm other), ih]

/-- Only what is there under the key matters to a change. -/
theorem alter_congr {k : String} {f g : Option Layer → Layer} {es : List (String × Layer)}
    (h : f (es.lookup k) = g (es.lookup k)) : alter k f es = alter k g es := by
  rw [alter_eq_putEntry, alter_eq_putEntry, h]

/-- An entry that was altered is found, and the others as before. -/
theorem lookup_alter (k j : String) (f : Option Layer → Layer) (es : List (String × Layer)) :
    (alter k f es).lookup j = if j = k then some (f (es.lookup k)) else es.lookup j := by
  rw [alter_eq_putEntry, Table.lookup_putEntry]

/-- Altering makes no entry twice. -/
theorem nodup_alter {k : String} {f : Option Layer → Layer} {es : List (String × Layer)}
    (h : (es.map Prod.fst).Nodup) : ((alter k f es).map Prod.fst).Nodup :=
  alter_eq_putEntry k f es ▸ Table.nodup_putEntry k _ h

/-- Altering one entry twice is altering it once. -/
theorem alter_alter (k : String) (f g : Option Layer → Layer) (es : List (String × Layer)) :
    alter k g (alter k f es) = alter k (fun w => g (some (f w))) es := by
  induction es with
  | nil => simp [alter]
  | cons e es ih =>
    by_cases h : e.1 = k
    · simp [alter, h]
    · simp [alter, h, ih]

/-- Further down a path is further down below its first step. -/
theorem from?_cons (k : String) (p : List String) (was : Option Layer) :
    from? (k :: p) was = from? p ((was.getD null).entries.lookup k) := by
  cases was with
  | none => rfl
  | some v => rfl

theorem from?_nil (was : Option Layer) : from? [] was = was := by
  cases was with
  | none | some => rfl

/-- What is at a longer path is below what is at the shorter one. -/
theorem at?_append (p q : List String) (v : Layer) : at? (p ++ q) v = (at? p v).bind (at? q) := by
  induction p generalizing v with
  | nil => rfl
  | cons k p ih =>
    simp only [List.cons_append, at?, Option.bind_assoc]
    congr 1
    exact funext ih

/-- What was at a longer path was below what was at the shorter one. -/
theorem from?_append (p q : List String) (was : Option Layer) :
    from? (p ++ q) was = from? q (from? p was) := by
  cases was with
  | none => rfl
  | some v => exact at?_append p q v

/-! ## The laws of putting -/

/-- To put a value at a longer path is to put a table there, on the shorter one. -/
theorem put_append (p q : List String) (v : Layer) (was : Option Layer) :
    put (p ++ q) v was = put p (put q v (from? p was)) was := by
  induction p generalizing was with
  | nil =>
    rw [from?_nil]
    rfl
  | cons k p ih =>
    simp only [List.cons_append, put, table.injEq]
    refine alter_congr ?_
    rw [ih, from?_cons]

/-- What is at a path and below it is in the value that was put there. -/
theorem at?_put_append (p q : List String) (v : Layer) (was : Option Layer) :
    at? (p ++ q) (put p v was) = at? q v := by
  induction p generalizing was with
  | nil => rfl
  | cons k p ih =>
    simp only [List.cons_append, at?, put, entries, lookup_alter, if_true, Option.bind_some]
    exact ih _

/-- A value is where it was put. -/
theorem at?_put (p : List String) (v : Layer) (was : Option Layer) : at? p (put p v was) = some v := by
  have h := at?_put_append p [] v was
  rwa [List.append_nil] at h

/-- Apart from a path that a value is put at, everything stays. -/
theorem at?_put_apart {p q : List String} (hqp : ¬ q <+: p) (hpq : ¬ p <+: q) (v : Layer)
    (was : Option Layer) : at? p (put q v was) = from? p was := by
  induction q generalizing p was with
  | nil => exact absurd List.nil_prefix hqp
  | cons k q ih =>
    cases p with
    | nil => exact absurd List.nil_prefix hpq
    | cons j p =>
      rw [from?_cons]
      simp only [at?, put, entries]
      by_cases same : j = k
      · subst same
        rw [List.cons_prefix_cons, not_and] at hqp hpq
        rw [lookup_alter, if_pos rfl, Option.bind_some]
        exact ih (hqp rfl) (hpq rfl) _
      · rw [lookup_alter, if_neg same]
        rfl

/-- What is put at a path last stays. -/
theorem put_put (p : List String) (v v' : Layer) (was : Option Layer) :
    put p v' (some (put p v was)) = put p v' was := by
  induction p generalizing was with
  | nil => rfl
  | cons k p ih =>
    simp only [put, Option.getD_some, entries, alter_alter, table.injEq]
    exact alter_congr (ih _)

/-- What was put below is lost when a value is put above. -/
theorem put_put_append (p q : List String) (v v' : Layer) (was : Option Layer) :
    put p v' (some (put (p ++ q) v was)) = put p v' was := by
  rw [put_append, put_put]

/-- What a path leads to after a value was put at another one: it goes on into the value, or it ends above
the value, at a table, or the two are apart. -/
theorem from?_put_cases (c p : List String) (v : Layer) (was : Option Layer) :
    (∃ q, p = c ++ q ∧ from? p (some (put c v was)) = at? q v) ∨
    (∃ k q, c = p ++ k :: q ∧ from? p (some (put c v was)) = some (put (k :: q) v (from? p was))) ∨
    (¬ c <+: p ∧ ¬ p <+: c ∧ from? p (some (put c v was)) = from? p was) := by
  by_cases into : c <+: p
  · obtain ⟨q, rfl⟩ := into
    exact .inl ⟨q, rfl, at?_put_append c q v was⟩
  · by_cases above : p <+: c
    · obtain ⟨q, rfl⟩ := above
      cases q with
      | nil =>
        rw [List.append_nil] at into
        exact absurd List.prefix_rfl into
      | cons k q =>
        refine .inr (.inl ⟨k, q, rfl, ?_⟩)
        rw [put_append]
        exact at?_put p _ was
    · exact .inr (.inr ⟨into, above, at?_put_apart into above v was⟩)

/-! ## What a source tells -/

/-- What a source tells of a path. -/
inductive Told where
  | value (v : Layer)
  /-- That it is a table, and nothing of what is in it. -/
  | table
  /-- Something of an item of a list. -/
  | item

/-- A path, and what is told of it. -/
structure Mark where
  path : List String
  told : Told

/-- What is told of a path, below another one. -/
def Mark.under (c : List String) (m : Mark) : Mark := ⟨c ++ m.path, m.told⟩

mutual

/-- What a value tells of the paths in it. -/
def marks : Layer → List Mark
  | table es =>
    match es with
    | [] => [⟨[], .table⟩]
    | e :: es => (marks e.2).map (Mark.under [Text.lower e.1]) ++ marksIn es
  | v => [⟨[], .value v⟩]

/-- What the entries of a table tell. -/
def marksIn : List (String × Layer) → List Mark
  | [] => []
  | e :: es => (marks e.2).map (Mark.under [Text.lower e.1]) ++ marksIn es

end

/-- What becomes of what was at a path by what is told of it. -/
inductive Settles : Told → Option Layer → Layer → Prop
  | value (v : Layer) (was : Option Layer) : Settles (.value v) was v
  | table (was : Option Layer) : Settles .table was (was.getD (.table []))
  | item (was : Option Layer) (xs : List Layer) : Settles .item was (array xs)

/-- Marks are laid one after the other. -/
inductive Laid : List Mark → Option Layer → Option Layer → Prop
  | nil (was : Option Layer) : Laid [] was was
  | cons {m : Mark} {ms : List Mark} {was is : Option Layer} {v : Layer}
    (settles : Settles m.told (from? m.path was) v) (rest : Laid ms (some (put m.path v was)) is) :
    Laid (m :: ms) was is

namespace Laid

variable {ms ms' : List Mark} {was mid is : Option Layer}

/-- What was laid in two parts was laid. -/
theorem append (h : Laid ms was mid) (h' : Laid ms' mid is) : Laid (ms ++ ms') was is := by
  induction h with
  | nil => exact h'
  | cons settles _ ih => exact .cons settles (ih h')

/-- What is laid where a path leads to is laid below the path. -/
theorem under (c : List String) {v : Layer} (h : Laid ms was is) :
    ∀ {w : Option Layer}, from? c w = was → is = some v → ms ≠ [] →
      Laid (ms.map (Mark.under c)) w (some (put c v w)) := by
  induction h with
  | nil => exact fun _ _ h => absurd rfl h
  | @cons m ms was is u settles rest ih =>
    intro w there result _
    have first : Settles m.told (from? (c ++ m.path) w) u := by
      rwa [from?_append, there]
    have next : from? c (some (put (c ++ m.path) u w)) = some (put m.path u was) := by
      rw [put_append, there]
      exact at?_put c _ w
    cases ms with
    | nil =>
      cases rest
      cases result
      rw [← there, ← put_append]
      exact .cons first (.nil _)
    | cons m' ms =>
      have more := ih next result (List.cons_ne_nil m' ms)
      rw [put_put_append] at more
      exact .cons first more

end Laid

/-- There is a mark for every layer. -/
theorem marks_ne_nil (v : Layer) : marks v ≠ [] := by
  cases v with
  | table es =>
    cases es with
    | nil => exact List.cons_ne_nil _ _
    | cons e es =>
      have inner := marks_ne_nil e.2
      simp only [marks, ne_eq, List.append_eq_nil_iff, List.map_eq_nil_iff, inner, false_and,
        not_false_eq_true]
  | _ => exact List.cons_ne_nil _ _

mutual

/-- To lay a value is to put its marks. -/
theorem laid_lay (was : Option Layer) (v : Layer) : Laid (marks v) was (some (lay was v)) := by
  cases v with
  | table es =>
    cases es with
    | nil =>
      have stays : lay was (table []) = put [] ((from? [] was).getD (table [])) was := by
        rw [lay, from?_nil]
        rfl
      rw [stays]
      exact .cons (.table _) (.nil _)
    | cons e es =>
      simp only [lay, marks]
      exact (laid_entry was e).append (laid_layEntries _ es)
  | null | bool | integer | float | string | array => exact .cons (.value _ _) (.nil _)

/-- An entry is laid mark by mark. -/
theorem laid_entry (was : Option Layer) (e : String × Layer) :
    Laid ((marks e.2).map (Mark.under [Text.lower e.1])) was
      (some (table (alter (Text.lower e.1) (fun w => lay w e.2) (was.getD null).entries))) := by
  have inner := laid_lay (from? [Text.lower e.1] was) e.2
  have under := inner.under [Text.lower e.1] rfl rfl (marks_ne_nil e.2)
  rw [from?_cons, from?_nil] at under
  have same : put [Text.lower e.1] (lay ((was.getD null).entries.lookup (Text.lower e.1)) e.2) was =
      table (alter (Text.lower e.1) (fun w => lay w e.2) (was.getD null).entries) :=
    congrArg table (alter_congr rfl)
  rwa [same] at under

/-- So are all entries. -/
theorem laid_layEntries (was : Layer) (es : List (String × Layer)) :
    Laid (marksIn es) (some was) (some (layEntries was es)) := by
  cases es with
  | nil => exact .nil _
  | cons e es =>
    simp only [layEntries, marksIn]
    exact (laid_entry (some was) e).append (laid_layEntries _ es)

end

/-! ## Entries and their keys -/

/-- The words of a key up to the first place in a list. -/
def words : List Step → List String
  | .key k :: steps => k :: words steps
  | _ => []

/-- What a key names beyond its words. -/
def beyond : List Step → List Step
  | .key _ :: steps => beyond steps
  | steps => steps

/-- A path is its words and what lies beyond them. -/
theorem words_append_beyond (steps : List Step) : (words steps).map .key ++ beyond steps = steps := by
  induction steps with
  | nil => rfl
  | cons step steps ih =>
    cases step with
    | key k => exact congrArg (Step.key k :: ·) ih
    | place n => rfl

/-- Beyond the words there is nothing, or a place in a list. -/
theorem beyond_eq (steps : List Step) : beyond steps = [] ∨ ∃ n rest, beyond steps = .place n :: rest := by
  induction steps with
  | nil => exact .inl rfl
  | cons step steps ih =>
    cases step with
    | key k => exact ih
    | place n => exact .inr ⟨n, steps, rfl⟩

/-- A key begins with a word. -/
theorem words_path_ne_nil (key : String) : words (path key) ≠ [] := by
  unfold path keyWord?
  simp only
  split
  · exact List.cons_ne_nil _ _
  · rw [Option.bind_eq_bind, Option.bind_some, Option.bind_eq_bind]
    generalize keySteps? _ _ = rest
    cases rest with
    | none | some => exact List.cons_ne_nil _ _

theorem put_getD (p : List String) (v : Layer) (was : Option Layer) :
    put p v (some (was.getD null)) = put p v was := by
  cases p with
  | nil | cons => rfl

theorem from?_cons_getD (k : String) (p : List String) (was : Option Layer) :
    from? (k :: p) (some (was.getD null)) = from? (k :: p) was := by
  rw [from?_cons, from?_cons]
  rfl

/-- To lay at a longer path is to lay further down. -/
theorem layAt_cons (k : String) {steps : List Step} (more : steps ≠ []) (v was : Layer) :
    layAt (.key k :: steps) v was =
      (layAt steps v ((from? [k] (some was)).getD null)).map fun inner => put [k] inner (some was) := by
  rw [from?_cons, from?_nil]
  cases steps with
  | nil => exact absurd rfl more
  | cons step steps => exact Option.map_eq_bind.symm

/-- A value is laid over what the words of its key lead to. -/
theorem layAt_words (k : String) (c : List String) (v was : Layer) :
    layAt ((k :: c).map .key) v was =
      some (put (k :: c) (lay (from? (k :: c) (some was)) v) (some was)) := by
  induction c generalizing k was with
  | nil =>
    simp only [List.map_cons, List.map_nil, layAt, put, Option.getD_some, from?_cons, from?_nil,
      Option.some.injEq, table.injEq]
    exact alter_congr rfl
  | cons j c ih =>
    have more : (j :: c).map Step.key ≠ [] := List.cons_ne_nil _ _
    rw [List.map_cons, layAt_cons k more, ih j, put_getD, from?_cons_getD, ← from?_append,
      Option.map_some, ← put_append]
    rfl

/-- Where a key names a place there is a list then. -/
theorem layAt_place {c : List String} {n : Int} {rest : List Step} {v was is : Layer}
    (h : layAt (c.map .key ++ .place n :: rest) v was = some is) :
    ∃ xs, is = put c (array xs) (some was) := by
  induction c generalizing was is with
  | nil =>
    obtain ⟨xs, -, rfl⟩ := Option.map_eq_some_iff.mp h
    exact ⟨xs, rfl⟩
  | cons k c ih =>
    have more : c.map Step.key ++ .place n :: rest ≠ [] :=
      List.append_ne_nil_of_right_ne_nil _ (List.cons_ne_nil _ _)
    rw [List.map_cons, List.cons_append, layAt_cons k more] at h
    obtain ⟨inner, laid, rfl⟩ := Option.map_eq_some_iff.mp h
    obtain ⟨xs, rfl⟩ := ih laid
    exact ⟨xs, by rw [put_getD, ← put_append]; rfl⟩

/-- What an entry tells. Beyond a place in a list it is not looked at. -/
def marksOf (e : String × Layer) : List Mark :=
  match beyond (path e.1) with
  | [] => (marks e.2).map (Mark.under (words (path e.1)))
  | _ => [⟨words (path e.1), .item⟩]

/-- What a source tells, in its order. -/
def marksOfAll (es : List (String × Layer)) : List Mark := es.flatMap marksOf

/-- What is laid at the path of a variable is laid mark by mark. -/
theorem laid_layAt {e : String × Layer} {was is : Layer} (h : layAt (path e.1) e.2 was = some is) :
    Laid (marksOf e) (some was) (some is) := by
  have split := words_append_beyond (path e.1)
  unfold marksOf
  rcases beyond_eq (path e.1) with none | ⟨n, rest, place⟩
  · rw [none, List.append_nil] at split
    rw [← split] at h
    obtain ⟨k, c, first⟩ := List.exists_cons_of_ne_nil (words_path_ne_nil e.1)
    rw [first, layAt_words] at h
    cases h
    simp only [none, first]
    exact (laid_lay _ e.2).under (k :: c) rfl rfl (marks_ne_nil e.2)
  · rw [place] at split
    rw [← split] at h
    obtain ⟨xs, rfl⟩ := layAt_place h
    simp only [place]
    exact .cons (.item _ xs) (.nil _)

/-- To lay a source over a layer is to put its marks. -/
theorem laid_layPaths {es : List (String × Layer)} {base is : Layer} (h : layPaths base es = some is) :
    Laid (marksOfAll es) (some base) (some is) := by
  induction es generalizing base with
  | nil =>
    cases h
    exact .nil _
  | cons e es ih =>
    obtain ⟨mid, first, rest⟩ := Option.bind_eq_some_iff.mp h
    exact (laid_layAt first).append (ih rest)

/-! ## What there is at a path in the end -/

/-- The value that a mark tells of a path. -/
def Mark.value? (p : List String) (m : Mark) : Option Layer :=
  if m.path = p then
    match m.told with
    | .value v => some v
    | _ => none
  else none

/-- The last value that is told of a path. -/
def named? (p : List String) : List Mark → Option Layer
  | [] => none
  | m :: ms => named? p ms <|> m.value? p

/-- A path that no mark leads to is named by none. -/
theorem named?_eq_none {p : List String} {ms : List Mark} (h : ∀ m ∈ ms, ¬ m.path <+: p) :
    named? p ms = none := by
  induction ms with
  | nil => rfl
  | cons m ms ih =>
    obtain ⟨first, others⟩ := List.forall_mem_cons.mp h
    have other : ¬ m.path = p := fun same => first (same ▸ List.prefix_rfl)
    rw [named?, ih others, Mark.value?, if_neg other]
    rfl

/-- Nothing is told of what is above a path but that it is a table, and of the path only its value. -/
def Clear (p : List String) (ms : List Mark) : Prop :=
  ∀ m ∈ ms, m.path <+: p → m.told = .table ∨ m.path = p ∧ ∃ v, m.told = .value v

/-- A table settles into what was there, or into an empty table. -/
theorem Settles.eq_getD {was : Option Layer} {v : Layer} (h : Settles .table was v) :
    v = was.getD (Layer.table []) := by
  cases h
  rfl

/-- To be told of what a path leads through that it is a table changes nothing at the path. -/
theorem from?_put_getD {c p : List String} (above : c <+: p) (other : c ≠ p) (was : Option Layer) :
    from? p (some (put c ((from? c was).getD (table [])) was)) = from? p was := by
  obtain ⟨q, rfl⟩ := above
  cases q with
  | nil => exact absurd (List.append_nil c).symm other
  | cons k q =>
    rw [from?_append c _ was]
    show at? _ (put c _ was) = _
    rw [at?_put_append]
    cases from? c was with
    | none | some => rfl

/-- One mark leaves at a clear path the value that it tells of it, or what was there, or it tells of what is
below, and there is a table. -/
theorem at?_of_settles {p : List String} {m : Mark} {v : Layer} {was : Option Layer}
    (settles : Settles m.told (from? m.path was) v) (clear : Clear p [m]) :
    (∃ es, from? p (some (put m.path v was)) = some (table es)) ∨
      from? p (some (put m.path v was)) = (m.value? p <|> from? p was) := by
  -- The mark is at the path or above it, below it, or elsewhere.
  rcases from?_put_cases m.path p v was with ⟨q, longer, -⟩ | ⟨k, q, longer, there⟩ | ⟨above, -, there⟩
  · rcases clear m (List.mem_singleton_self m) ⟨q, longer.symm⟩ with isTable | ⟨same, u, isValue⟩
    · rw [isTable] at settles
      have unsaid : m.value? p = none := by
        simp only [Mark.value?, isTable, ite_self]
      rw [unsaid, settles.eq_getD]
      by_cases same : m.path = p
      · subst same
        show (∃ es, at? _ _ = _) ∨ at? _ _ = _
        rw [at?_put]
        cases from? m.path was with
        | none => exact .inl ⟨[], rfl⟩
        | some => exact .inr rfl
      · exact .inr (from?_put_getD ⟨q, longer.symm⟩ same was)
    · rw [isValue] at settles
      cases settles
      refine .inr ?_
      show at? p (put m.path v was) = _
      simp only [Mark.value?, if_pos same, isValue]
      rw [← same, at?_put]
      rfl
  · exact .inl ⟨_, there⟩
  · have other : ¬ m.path = p := fun same => above (same ▸ List.prefix_rfl)
    rw [there, Mark.value?, if_neg other]
    exact .inr rfl

/-- What marks leave at a clear path: a table, or the last value that they tell of it, or what was there. -/
theorem at?_of_laid {p : List String} {ms : List Mark} {was is : Option Layer} (h : Laid ms was is)
    (clear : Clear p ms) :
    (∃ es, from? p is = some (table es)) ∨ from? p is = (named? p ms <|> from? p was) := by
  induction h with
  | nil was => exact .inr rfl
  | @cons m ms was is v settles rest ih =>
    have first := at?_of_settles settles fun m' hm =>
      clear m' (List.mem_cons.mpr (.inl (List.mem_singleton.mp hm)))
    rw [named?]
    rcases ih fun m' hm => clear m' (List.mem_cons_of_mem m hm) with ended | ended
    · exact .inl ended
    · rw [ended]
      cases named? p ms with
      | some u => exact .inr rfl
      | none =>
        refine first.imp_right fun kept => ?_
        rw [kept]
        cases m.value? p with
        | none | some => rfl

/-- A table whose keys are all different. -/
def IsTidy (v : Option Layer) : Prop := ∃ es, v = some (table es) ∧ (es.map Prod.fst).Nodup

/-- Marks leave a table a table as long as they tell of it and of what is above it at most that. -/
theorem isTidy_of_laid {p : List String} {ms : List Mark} {was is : Option Layer} (h : Laid ms was is)
    (clear : ∀ m ∈ ms, m.path <+: p → m.told = .table) (tidy : IsTidy (from? p was)) :
    IsTidy (from? p is) := by
  induction h with
  | nil was => exact tidy
  | @cons m ms was is v settles rest ih =>
    refine ih (fun m' hm => clear m' (List.mem_cons_of_mem m hm)) ?_
    obtain ⟨es, there, nodup⟩ := tidy
    rcases from?_put_cases m.path p v was with ⟨q, longer, -⟩ | ⟨k, q, longer, put⟩ | ⟨-, -, kept⟩
    · have above : m.path <+: p := ⟨q, longer.symm⟩
      have isTable := clear m List.mem_cons_self above
      rw [isTable] at settles
      refine ⟨es, ?_, nodup⟩
      rw [settles.eq_getD, ← there]
      by_cases same : m.path = p
      · subst same
        show at? m.path (Layer.put m.path _ was) = _
        rw [at?_put, there]
        rfl
      · exact from?_put_getD above same was
    · rw [there] at put
      exact ⟨_, put, nodup_alter nodup⟩
    · exact ⟨es, kept.trans there, nodup⟩

/-! ## Tables without repeated keys -/

variable {p : List String} {was is : Option Layer}

/-- If the path leads to a table, no key stands in it twice. -/
def NoRepeats (p : List String) (v : Option Layer) : Prop :=
  ∀ es, from? p v = some (table es) → (es.map Prod.fst).Nodup

/-- A mark does not tell of a path that it has a table for a value. -/
def Mark.IsPlain (m : Mark) : Prop := ∀ es, m.told ≠ .value (table es)

/-- No path leads to a table from what is none. -/
theorem table_of_at? {q : List String} {v : Layer} {es : List (String × Layer)}
    (h : at? q v = some (table es)) : ∃ us, v = table us := by
  cases v with
  | table us => exact ⟨us, rfl⟩
  | null | bool | integer | float | string | array =>
    cases q with
    | nil | cons => cases h

/-- What has an entry is a table. -/
theorem table_of_lookup {k : String} {v x : Layer} (h : v.entries.lookup k = some x) :
    ∃ es, v = table es := by
  cases v with
  | table es => exact ⟨es, rfl⟩
  | null | bool | integer | float | string | array => cases h

/-- A plain mark brings no repetition. -/
theorem noRepeats_of_settles {m : Mark} {v : Layer} (settles : Settles m.told (from? m.path was) v)
    (plain : m.IsPlain) (h : NoRepeats p was) : NoRepeats p (some (put m.path v was)) := by
  intro es there
  rcases from?_put_cases m.path p v was with ⟨q, rfl, found⟩ | ⟨k, q, -, found⟩ | ⟨-, -, kept⟩
  · rw [found] at there
    rcases m with ⟨c, told⟩
    cases settles with
    | value =>
      obtain ⟨us, rfl⟩ := table_of_at? there
      exact absurd rfl (plain us)
    | table =>
      -- a table that was not there is empty, and one that was is as it was
      cases old : from? c was with
      | none =>
        rw [old] at there
        cases q with
        | nil =>
          cases there
          exact List.nodup_nil
        | cons k q => cases there
      | some w =>
        rw [old] at there
        rw [NoRepeats, from?_append, old] at h
        exact h es there
    | item =>
      obtain ⟨us, isTable⟩ := table_of_at? there
      cases isTable
  · rw [found] at there
    cases there
    refine nodup_alter ?_
    cases old : from? p was with
    | none => exact List.nodup_nil
    | some w =>
      cases w with
      | table us => exact h us old
      | null | bool | integer | float | string | array => exact List.nodup_nil
  · exact h es (kept.symm.trans there)

/-- Nor do plain marks together. -/
theorem noRepeats_of_laid {ms : List Mark} (h : Laid ms was is) (plain : ∀ m ∈ ms, m.IsPlain)
    (start : NoRepeats p was) : NoRepeats p is := by
  induction h with
  | nil => exact start
  | cons settles rest ih =>
    obtain ⟨first, others⟩ := List.forall_mem_cons.mp plain
    exact ih others (noRepeats_of_settles settles first start)

/-- Marks stay plain further down. -/
theorem isPlain_under {c : List String} {ms : List Mark} (h : ∀ m ∈ ms, m.IsPlain) :
    ∀ m ∈ ms.map (Mark.under c), m.IsPlain := by
  intro m hm
  obtain ⟨inner, hi, rfl⟩ := List.mem_map.mp hm
  exact h inner hi

mutual

/-- The marks of a layer are plain. -/
theorem isPlain_marks (v : Layer) : ∀ m ∈ marks v, m.IsPlain := by
  cases v with
  | table es =>
    cases es with
    | nil =>
      intro m hm es told
      rw [List.mem_singleton.mp hm] at told
      cases told
    | cons e es => exact List.forall_mem_append.mpr ⟨isPlain_under (isPlain_marks e.2), isPlain_marksIn es⟩
  | null | bool | integer | float | string | array =>
    intro m hm es told
    rw [List.mem_singleton.mp hm] at told
    cases told

/-- So are those of entries. -/
theorem isPlain_marksIn (es : List (String × Layer)) : ∀ m ∈ marksIn es, m.IsPlain := by
  cases es with
  | nil => exact fun m hm => absurd hm List.not_mem_nil
  | cons e es => exact List.forall_mem_append.mpr ⟨isPlain_under (isPlain_marks e.2), isPlain_marksIn es⟩

end

/-- So are those of all that the environment sets. -/
theorem isPlain_marksOfAll (es : List (String × Layer)) : ∀ m ∈ marksOfAll es, m.IsPlain := by
  intro m hm
  obtain ⟨e, -, hm⟩ := List.mem_flatMap.mp hm
  unfold marksOf at hm
  split at hm
  · exact isPlain_under (isPlain_marks e.2) m hm
  · intro es told
    rw [List.mem_singleton.mp hm] at told
    cases told

end WorkDispatch.Settings.Layer
