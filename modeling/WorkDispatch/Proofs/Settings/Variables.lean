import WorkDispatch.Proofs.Settings.Leaves
import WorkDispatch.Settings.Load

/-!
# What the name of a variable denotes

The name of a variable is the marker and the words of a path, with two underscores before each word but the
first, in letters of any case. `ofVariable_nameOf` says that such a variable tells of that path and of no
other, if the words hold no two underscores in a row and do not end in one (`IsWord`): of three underscores
in a row the first two are the separator. The words of all leaves are such (`isWord_leaves`).
-/

set_option autoImplicit false

namespace WorkDispatch.Settings

open Layer Text

/-- A word that the name of a variable can hold as it is. -/
structure IsWord (w : String) : Prop where
  nonempty : w.toList ≠ []
  chars : w.toList.all isKeyChar = true
  small : lower w = w
  single : dotted w.toList = w.toList
  ends : w.toList.getLast? ≠ some '_'

instance (w : String) : Decidable (IsWord w) :=
  decidable_of_iff (w.toList ≠ [] ∧ w.toList.all isKeyChar = true ∧ lower w = w ∧
      dotted w.toList = w.toList ∧ w.toList.getLast? ≠ some '_')
    ⟨fun h => ⟨h.1, h.2.1, h.2.2.1, h.2.2.2.1, h.2.2.2.2⟩,
      fun h => ⟨h.nonempty, h.chars, h.small, h.single, h.ends⟩⟩

/-- The name of the variable of a path, in small letters. -/
def nameOf (p : List String) : String := marker ++ String.intercalate "__" p

/-! ## Two underscores for a point -/

/-- What is no double underscore stays. -/
theorem dotted_cons {c : Char} {cs : List Char} (h : c ≠ '_' ∨ cs.head? ≠ some '_') :
    dotted (c :: cs) = c :: dotted cs := by
  rw [dotted]
  rintro cs' rfl rfl
  simp at h

/-- A word is not touched, and the separator after it becomes a point. -/
theorem dotted_append {w : List Char} (single : dotted w = w) (ends : w.getLast? ≠ some '_')
    (cs : List Char) : dotted (w ++ '_' :: '_' :: cs) = w ++ '.' :: dotted cs := by
  induction w with
  | nil => rfl
  | cons c w ih =>
    have apart : c ≠ '_' ∨ w.head? ≠ some '_' := by
      by_cases underscore : c = '_'
      · refine .inr fun next => ?_
        obtain ⟨w', rfl⟩ := List.head?_eq_some_iff.mp next
        rw [underscore] at single
        cases single
      · exact .inl underscore
    rw [dotted_cons apart, List.cons.injEq] at single
    cases w with
    | nil =>
      have other : c ≠ '_' := by simpa using ends
      rw [List.singleton_append, dotted_cons (.inl other)]
      rfl
    | cons d w =>
      rw [List.getLast?_cons_cons] at ends
      have rest := ih single.2 ends
      have apart' : c ≠ '_' ∨ (d :: w ++ '_' :: '_' :: cs).head? ≠ some '_' := apart
      rw [List.cons_append, dotted_cons apart', rest]
      rfl

theorem toList_intercalate_words (separator w : String) (ws : List String) :
    (String.intercalate separator (w :: ws)).toList =
      w.toList ++ ws.flatMap fun v => separator.toList ++ v.toList := by
  rw [String.toList_intercalate, List.map_cons]
  induction ws generalizing w with
  | nil => simp [List.intercalate]
  | cons v ws ih =>
    rw [List.map_cons, List.intercalate_cons_cons, ih v]
    simp

/-- Between words, double underscores become dots. -/
theorem dotted_words {w : String} {ws : List String} (h : ∀ v ∈ w :: ws, IsWord v) :
    dotted (w.toList ++ ws.flatMap fun v => ['_', '_'] ++ v.toList) =
      w.toList ++ ws.flatMap fun v => '.' :: v.toList := by
  induction ws generalizing w with
  | nil => simpa using (h w List.mem_cons_self).single
  | cons v ws ih =>
    have first := h w List.mem_cons_self
    have rest := ih fun u hu => h u (List.mem_cons_of_mem w hu)
    simp only [List.flatMap_cons, List.cons_append, List.nil_append] at rest ⊢
    rw [dotted_append first.single first.ends, rest]

/-! ## Words of a key -/

/-- A word is read up to the next point. -/
theorem keyWord?_append {w : String} (h : IsWord w) {cs : List Char}
    (stops : cs.head? = none ∨ cs.head? = some '.') : keyWord? (w.toList ++ cs) = some (.key w, cs) := by
  have stop : cs.takeWhile isKeyChar = [] := by
    cases cs with
    | nil => rfl
    | cons c cs =>
      rcases stops with none | point
      · cases none
      · cases point
        rfl
  have word : (w.toList ++ cs).takeWhile isKeyChar = w.toList := by
    rw [List.takeWhile_append_of_pos (List.all_eq_true.mp h.chars), stop, List.append_nil]
  unfold keyWord?
  simp only [word, if_neg h.nonempty, String.ofList_toList, h.small, List.drop_left]

theorem head?_flatMap_words (ws : List String) :
    (ws.flatMap fun v => '.' :: v.toList).head? = none ∨
      (ws.flatMap fun v => '.' :: v.toList).head? = some '.' := by
  cases ws with
  | nil => exact .inl rfl
  | cons => exact .inr rfl

/-- Words with dots between them are read as their steps. -/
theorem keySteps?_words {ws : List String} (h : ∀ v ∈ ws, IsWord v) : ∀ fuel, ws.length ≤ fuel →
    keySteps? fuel (ws.flatMap fun v => '.' :: v.toList) = some (ws.map .key) := by
  induction ws with
  | nil =>
    intro fuel _
    cases fuel with
    | zero | succ => rfl
  | cons v ws ih =>
    intro fuel enough
    cases fuel with
    | zero => cases enough
    | succ fuel =>
      have rest := ih (fun u hu => h u (List.mem_cons_of_mem v hu)) fuel (Nat.le_of_succ_le_succ enough)
      have first := keyWord?_append (h v List.mem_cons_self) (head?_flatMap_words ws)
      rw [List.flatMap_cons, List.cons_append, keySteps?, first]
      simp only [Option.bind_eq_bind, Option.bind_some, rest, List.map_cons]

/-- There are no more words than characters. -/
theorem length_le_flatMap_words (ws : List String) :
    ws.length ≤ (ws.flatMap fun v => '.' :: v.toList).length := by
  induction ws with
  | nil => exact Nat.le_refl 0
  | cons v ws ih =>
    rw [List.flatMap_cons, List.length_append, List.length_cons, List.length_cons]
    omega

/-- A key of words with points between them names the path of the words. -/
theorem path_words {w : String} {ws : List String} (h : ∀ v ∈ w :: ws, IsWord v) :
    path (String.ofList (w.toList ++ ws.flatMap fun v => '.' :: v.toList)) = (w :: ws).map .key := by
  have first := keyWord?_append (h w List.mem_cons_self) (head?_flatMap_words ws)
  have rest :=
    keySteps?_words (fun v hv => h v (List.mem_cons_of_mem w hv)) _ (length_le_flatMap_words ws)
  unfold path
  simp only [String.toList_ofList, first, rest, Option.bind_eq_bind, Option.bind_some, Option.getD_some,
    List.map_cons]

/-- A variable that is named so tells of the path, whatever the case of its letters. -/
theorem ofVariable_nameOf {w : String} {ws : List String} (h : ∀ v ∈ w :: ws, IsWord v) {name : String}
    (named : lower name = nameOf (w :: ws)) (text : String) :
    ∃ key, Layer.ofVariable (name, text) = some (key, ofText text) ∧ path key = (w :: ws).map .key := by
  refine ⟨_, ?_, path_words h⟩
  have chars : (lower name).toList =
      marker.toList ++ (w.toList ++ ws.flatMap fun v => ['_', '_'] ++ v.toList) := by
    rw [named, nameOf, String.toList_append, toList_intercalate_words]
    rfl
  have marked : marker.toList.isPrefixOf (lower name).toList = true := by
    rw [chars, List.isPrefixOf_iff_prefix]
    exact List.prefix_append _ _
  have dropped : (lower name).toList.drop marker.length =
      w.toList ++ ws.flatMap fun v => ['_', '_'] ++ v.toList := by
    rw [chars, ← String.length_toList, List.drop_left]
  unfold Layer.ofVariable
  simp only [marked, if_true, dropped, dotted_words h]

/-! ## What a variable tells -/

/-- A path of words has these words. -/
theorem words_map_key (p : List String) : words (p.map .key) = p := by
  induction p with
  | nil => rfl
  | cons k p ih => exact congrArg (k :: ·) ih

/-- Nothing lies beyond them. -/
theorem beyond_map_key (p : List String) : beyond (p.map .key) = [] := by
  induction p with
  | nil => rfl
  | cons k p ih => exact ih

/-- The text of a variable is a single value. -/
theorem marks_ofText (text : String) : marks (ofText text) = [⟨[], .value (ofText text)⟩] := by
  unfold ofText
  split
  · rfl
  · split
    · rfl
    · split
      · rfl
      · split
        · rfl
        · rfl

/-- A key of words tells of their path that it has the value of the text, and nothing else. -/
theorem marksOf_words {key : String} {p : List String} (h : path key = p.map .key) (text : String) :
    marksOf (key, ofText text) = [⟨p, .value (ofText text)⟩] := by
  rw [marksOf, h, beyond_map_key, words_map_key]
  simp only [marks_ofText, List.map_cons, List.map_nil, Mark.under, List.append_nil]

/-- The variable of a path tells of the path that it has the value of its text, and nothing else. -/
theorem marksOf_variable {w : String} {ws : List String} (h : ∀ v ∈ w :: ws, IsWord v) {name : String}
    (named : lower name = nameOf (w :: ws)) (text : String) :
    (Layer.ofVariable (name, text)).map marksOf = some [⟨w :: ws, .value (ofText text)⟩] := by
  obtain ⟨key, entry, denotes⟩ := ofVariable_nameOf h named text
  rw [entry, Option.map_some, marksOf_words denotes]

/-! ## The words of the leaves -/

/-- The characters that the settings are named with. -/
def plain : List Char :=
  ['e', 's', 't', 'r', 'n', 'o', 'i', '_', 'a', 'c', 'd', 'm', 'l', 'k', 'h', 'u', 'v', 'p', 'b',
   'f', 'g', 'w', 'x', 'y', 'j', 'q', 'z']

/-- Plain characters may stand in keys, and are small. -/
theorem plain_chars :
    ∀ c ∈ plain, isKeyChar c = true ∧ c ≠ '\u0130' ∧ c ≠ 'Σ' ∧ lowerChar c = c := by
  -- over the list, as what is asked of all characters would be asked of each there is
  have all : plain.all (fun c =>
      isKeyChar c = true ∧ c ≠ '\u0130' ∧ c ≠ 'Σ' ∧ lowerChar c = c) = true := by
    decide +kernel
  exact fun c hc => of_decide_eq_true (List.all_eq_true.mp all c hc)

/-- Characters that are their own small letters stay, wherever they stand. -/
theorem lowerAfter_of_small {cs : List Char}
    (h : ∀ c ∈ cs, c ≠ '\u0130' ∧ c ≠ 'Σ' ∧ lowerChar c = c) (before : List Char) :
    lowerAfter before cs = cs := by
  induction cs generalizing before with
  | nil => rfl
  | cons c cs ih =>
    obtain ⟨dot, sigma, small⟩ := h c List.mem_cons_self
    rw [lowerAfter, ih fun d hd => h d (List.mem_cons_of_mem c hd)]
    simp only [dot, sigma, small, false_and, if_false, List.singleton_append]

/-- Plain characters stay as they are in lower case. -/
theorem lowerAfter_plain {cs : List Char} (h : cs ⊆ plain) (before : List Char) :
    lowerAfter before cs = cs :=
  lowerAfter_of_small (fun c hc => (plain_chars c (h hc)).2) before

/-- Plain characters make a word, unless they look like several. -/
theorem isWord_of_plain {w : String} (nonempty : w.toList ≠ []) (chars : w.toList ⊆ plain)
    (single : dotted w.toList = w.toList) (ends : w.toList.getLast? ≠ some '_') : IsWord w where
  nonempty := nonempty
  chars := List.all_eq_true.mpr fun c hc => (plain_chars c (chars hc)).1
  small := by
    unfold lower
    rw [lowerAfter_plain chars, String.ofList_toList]
  single := single
  ends := ends

/-- The variable of every leaf can be named. -/
theorem isWord_leaves : ∀ l ∈ leaves, ∀ w ∈ l.path, IsWord w := by
  have plain : ∀ l ∈ leaves, ∀ w ∈ l.path, w.toList ≠ [] ∧ w.toList ⊆ plain ∧
      dotted w.toList = w.toList ∧ w.toList.getLast? ≠ some '_' := by
    decide +kernel
  intro l hl w hw
  obtain ⟨nonempty, chars, single, ends⟩ := plain l hl w hw
  exact isWord_of_plain nonempty chars single ends

/-- No leaf is the whole. -/
theorem path_ne_nil_of_leaf : ∀ l ∈ leaves, l.path ≠ [] := by
  decide +kernel

/-- The variable of a leaf tells of its path that it has the value of its text, and nothing else. -/
theorem marksOf_leaf {l : Leaf Settings} (hl : l ∈ leaves) {name : String}
    (named : lower name = nameOf l.path) (text : String) :
    (Layer.ofVariable (name, text)).map marksOf = some [⟨l.path, .value (ofText text)⟩] := by
  obtain ⟨w, ws, path⟩ := List.exists_cons_of_ne_nil (path_ne_nil_of_leaf l hl)
  rw [path] at named ⊢
  exact marksOf_variable (path ▸ isWord_leaves l hl) named text

end WorkDispatch.Settings
