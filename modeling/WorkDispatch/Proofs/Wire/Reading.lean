import Mathlib.Data.List.Perm.Basic
import WorkDispatch.Proofs.Wire.Layout

/-!
# Taking fields into a message

The fields of a message are written in the order of their numbers, and each of them changes one part
of the message that takes them in. `Part` says what the fields of one number do, and `Reads` what
those up to a number do. A message is one `Part` after the other: `Reads.part`.

The entries of a map are fields of one number, and their order says nothing, so `Part` and `Reads`
are about every order that fields of one number can have. `Reads.read` says that a message is read
back from its fields in any such order, with foreign fields between them.
-/

set_option autoImplicit false

namespace WorkDispatch.Wire

variable {α : Type} {merge : α → Field → Option α} {x y z : α}

/-! ## Orders -/

/-- The same fields, of which those of one number may have changed places. -/
structure Shuffled (gs fs : List Field) : Prop where
  perm : gs.Perm fs
  numbers : gs.map Field.number = fs.map Field.number

/-- Fields in their order are shuffled by nothing. -/
theorem Shuffled.refl (fs : List Field) : Shuffled fs fs := ⟨.refl fs, rfl⟩

/-- Fields of a higher number than others stay behind them. -/
theorem Shuffled.append {count : Nat} {hs fs gs : List Field} (h : Shuffled hs (fs ++ gs))
    (low : ∀ f ∈ fs, f.number ≤ count) (high : ∀ g ∈ gs, g.number = count + 1) :
    ∃ fs' gs', hs = fs' ++ gs' ∧ Shuffled fs' fs ∧ gs'.Perm gs := by
  have numbers := h.numbers
  rw [List.map_append] at numbers
  obtain ⟨fs', gs', rfl, hfs, hgs⟩ := List.map_eq_append_iff.1 numbers
  -- Filtering by the number commutes with the permutation and takes the two parts apart.
  let isLow : Field → Bool := fun f => f.number ≤ count
  have keeps : ∀ ls ls' : List Field, ls.map Field.number = ls'.map Field.number →
      (∀ f ∈ ls', f.number ≤ count) → ls.filter isLow = ls := by
    intro ls ls' same below
    refine List.filter_eq_self.2 fun f hf => decide_eq_true ?_
    obtain ⟨g, hg, hn⟩ := List.mem_map.1 (same ▸ List.mem_map_of_mem (f := Field.number) hf)
    exact hn ▸ below g hg
  have drops : ∀ ls ls' : List Field, ls.map Field.number = ls'.map Field.number →
      (∀ f ∈ ls', f.number = count + 1) → ls.filter isLow = [] := by
    intro ls ls' same above
    refine List.filter_eq_nil_iff.2 fun f hf hlow => ?_
    obtain ⟨g, hg, hn⟩ := List.mem_map.1 (same ▸ List.mem_map_of_mem (f := Field.number) hf)
    have hlow : f.number ≤ count := of_decide_eq_true hlow
    have := above g hg
    omega
  have front : fs'.Perm fs := by
    have filtered := h.perm.filter isLow
    rw [List.filter_append, List.filter_append, keeps fs' fs hfs low, drops gs' gs hgs high,
      keeps fs fs rfl low, drops gs gs rfl high, List.append_nil, List.append_nil] at filtered
    exact filtered
  have back : gs'.Perm gs :=
    (List.perm_append_left_iff fs').1 (h.perm.trans (front.symm.append_right gs))
  exact ⟨fs', gs', rfl, ⟨front, hfs⟩, back⟩

/-! ## Parts -/

/-- Fields of one number, and what taking them in, in any order, makes of a message. -/
structure Part (merge : α → Field → Option α) (tag : Nat) (x : α) (fs : List Field) (y : α) :
    Prop where
  tagged : ∀ f ∈ fs, f.number = tag
  plain : ∀ f ∈ fs, f.content.Plain
  taken : ∀ gs : List Field, gs.Perm fs → (writeFields fs).length < Bits.count64 →
    gs.foldlM merge x = some y

/-- Fields up to a number, and what taking them in makes of a message. -/
structure Reads (merge : α → Field → Option α) (count : Nat) (x : α) (fs : List Field) (y : α) :
    Prop where
  written : ∀ f ∈ fs, f.Written count
  taken : ∀ gs, Shuffled gs fs → (writeFields fs).length < Bits.count64 →
    gs.foldlM merge x = some y

/-- From nothing, nothing is read. -/
theorem Reads.nil : Reads merge 0 x [] x where
  written f hf := absurd hf List.not_mem_nil
  taken gs hs _ := by rw [hs.perm.eq_nil]; rfl

/-- The fields of the next number come behind the others. -/
theorem Reads.part {count : Nat} {fs gs : List Field} (r : Reads merge count x fs y)
    (p : Part merge (count + 1) y gs z) : Reads merge (count + 1) x (fs ++ gs) z where
  written f hf := by
    rcases List.mem_append.1 hf with hf | hf
    · have w := r.written f hf
      exact ⟨w.numbered, Nat.le_succ_of_le w.declared, w.plain⟩
    · have tagged := p.tagged f hf
      exact ⟨by omega, by omega, p.plain f hf⟩
  taken hs shuffled short := by
    have low : ∀ f ∈ fs, f.number ≤ count := fun f hf => (r.written f hf).declared
    obtain ⟨fs', gs', rfl, front, back⟩ := shuffled.append low p.tagged
    have size : (writeFields (fs ++ gs)).length =
        (writeFields fs).length + (writeFields gs).length := by
      unfold writeFields
      rw [List.flatMap_append, List.length_append]
    rw [List.foldlM_append, r.taken fs' front (by omega)]
    exact p.taken gs' back (by omega)

/-- A part that is left out changes nothing. -/
theorem Part.absent {tag : Nat} : Part merge tag x [] x where
  tagged f hf := absurd hf List.not_mem_nil
  plain f hf := absurd hf List.not_mem_nil
  taken gs hs _ := by rw [hs.eq_nil]; rfl

/-- A part may be one field. -/
theorem Part.one {tag : Nat} {c : Content} (plain : c.Plain)
    (taken : (writeFields [⟨tag, c⟩]).length < Bits.count64 → merge x ⟨tag, c⟩ = some y) :
    Part merge tag x [⟨tag, c⟩] y where
  tagged f hf := by rw [List.mem_singleton.1 hf]
  plain f hf := by rw [List.mem_singleton.1 hf]; exact plain
  taken gs hs short := by
    rw [List.perm_singleton.1 hs, List.foldlM_cons, taken short]
    rfl

/-! ## Messages among foreign fields -/

/-- Fields that are passed over may as well be left out. -/
theorem foldlM_filter {p : Field → Bool} (passed : ∀ (x : α) (f : Field), p f = false →
    merge x f = some x) (fs : List Field) (x : α) :
    fs.foldlM merge x = (fs.filter p).foldlM merge x := by
  induction fs generalizing x with
  | nil => rfl
  | cons f fs ih =>
    cases hp : p f with
    | true =>
      rw [List.filter_cons, if_pos hp, List.foldlM_cons, List.foldlM_cons]
      exact Option.bind_congr fun y _ => ih y
    | false =>
      rw [List.filter_cons, if_neg (by rw [hp]; exact Bool.false_ne_true), List.foldlM_cons,
        passed x f hp]
      exact ih x

/-- A message is read back from its fields, whatever foreign fields lie between them. -/
theorem Reads.read {count : Nat} {fs gs : List Field} {bs : Bytes} (r : Reads merge count x fs y)
    (passed : ∀ (x : α) (f : Field), count < f.number → merge x f = some x)
    (room : count * 8 + 8 ≤ Bits.count32) (shuffled : Shuffled gs fs) (padded : Padded count gs bs)
    (short : bs.length < Bits.count64) (depth : Nat) :
    ((readFields? depth bs).bind fun hs => hs.foldlM merge x) = some y := by
  have size : (writeFields fs).length ≤ bs.length := by
    have same : (writeFields gs).Perm (writeFields fs) := shuffled.perm.flatMap_right Field.write
    rw [← same.length_eq]
    exact padded.length_le
  have written : ∀ g ∈ gs, g.Written count := fun g hg => r.written g (shuffled.perm.subset hg)
  obtain ⟨hs, laid, filtered⟩ := padded.laid written room short
  have passes : ∀ (x : α) (f : Field), decide (f.number ≤ count) = false → merge x f = some x :=
    fun x f hf => passed x f (Nat.lt_of_not_le (of_decide_eq_false hf))
  rw [readFields?_laid laid, Option.bind_some, foldlM_filter passes, filtered]
  exact r.taken gs shuffled (Nat.lt_of_le_of_lt size short)

end WorkDispatch.Wire
