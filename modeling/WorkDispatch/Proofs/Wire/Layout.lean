import WorkDispatch.Proofs.Wire.Varint

/-!
# Fields on the wire

`Field.Spelled` says which bytes stand for a field, and `Laid` which for a sequence of them. The
reader takes such bytes apart into the fields: `readFields?_laid`. It need not know the message for
that, so fields of other numbers may lie between those of a message. `Padded` says that they do, and
`Padded.laid` that what is left without them are the fields of the message, in their order.

A field that nobody declared may be spelled in any way that the reader takes. Groups are left out:
the writer has none, and no newer version of the protocol would use them.
-/

set_option autoImplicit false

namespace WorkDispatch.Wire

/-! ## One field -/

/-- The bytes spell the content of a field. -/
inductive Content.Spelled : Content → Bytes → Prop
  | varint {n : Nat} {bs : Bytes} (number : Spells bs n) : Spelled (.varint n) bs
  | fixed64 {bs : Bytes} (size : bs.length = 8) : Spelled (.fixed64 bs) bs
  | bytes {bs size : Bytes} (sized : Spells size bs.length) : Spelled (.bytes bs) (size ++ bs)
  | fixed32 {bs : Bytes} (size : bs.length = 4) : Spelled (.fixed32 bs) bs

/-- The bytes spell a field: its key, with a number that a key has room for, and its content. -/
inductive Field.Spelled : Field → Bytes → Prop
  | mk {f : Field} {key content : Bytes} (numbered : 1 ≤ f.number)
      (fits : f.number * 8 + f.content.form < Bits.count32)
      (keyed : Spells key (f.number * 8 + f.content.form)) (filled : f.content.Spelled content) :
      Spelled f (key ++ content)

/-- The form of a content fits into three bits. -/
theorem Content.form_lt (c : Content) : c.form < 8 := by
  cases c with
  | varint n => exact (by decide : 0 < 8)
  | fixed64 bs => exact (by decide : 1 < 8)
  | bytes bs => exact (by decide : 2 < 8)
  | group => exact (by decide : 3 < 8)
  | fixed32 bs => exact (by decide : 5 < 8)

/-- A field takes a byte at least. -/
theorem Field.Spelled.length_pos {f : Field} {bs : Bytes} (h : f.Spelled bs) : 0 < bs.length := by
  cases h with
  | mk _ _ keyed _ =>
    rw [List.length_append]
    exact Nat.add_pos_left keyed.length_pos _

/-- As many bytes are taken as are wanted. -/
theorem take?_append {n : Nat} {bs : Bytes} (h : bs.length = n) (rest : Bytes) :
    take? n (bs ++ rest) = some (bs, rest) := by
  unfold take?
  rw [List.length_append, if_pos (by omega), ← h, List.take_left, List.drop_left]

/-- A key that is spelled is read. -/
theorem readKey?_spells {number form : Nat} {bs : Bytes} (h : Spells bs (number * 8 + form))
    (numbered : 1 ≤ number) (hform : form < 8) (fits : number * 8 + form < Bits.count32)
    (rest : Bytes) : readKey? (bs ++ rest) = some (number, form, rest) := by
  have least : 8 ≤ number * 8 + form := by omega
  have parts : (number * 8 + form) / 8 = number ∧ (number * 8 + form) % 8 = form := by omega
  simp only [readKey?, readVarint?_spells h, Option.bind_eq_bind, Option.bind_some]
  rw [if_pos ⟨fits, least⟩, parts.1, parts.2]

/-- A content that is spelled is read. -/
theorem readContent?_spelled {c : Content} {bs : Bytes} (h : c.Spelled bs)
    (fuel depth number : Nat) (rest : Bytes) :
    readContent? (fuel + 1) depth number c.form (bs ++ rest) = some (c, rest) := by
  cases h with
  | varint spelled =>
    simp only [readContent?, Content.form, readVarint?_spells spelled, Option.map_some]
  | fixed64 size =>
    simp only [readContent?, Content.form, take?_append size, Option.map_some]
  | bytes sized =>
    simp only [readContent?, Content.form, List.append_assoc, readVarint?_spells sized,
      take?_append rfl, Option.bind_eq_bind, Option.bind_some, Option.map_some]
  | fixed32 size =>
    simp only [readContent?, Content.form, take?_append size, Option.map_some]

/-! ## All fields -/

/-- The bytes are fields one after the other. -/
inductive Laid : List Field → Bytes → Prop
  | nil : Laid [] []
  | cons {f : Field} {fs : List Field} {b bs : Bytes} (first : f.Spelled b) (rest : Laid fs bs) :
      Laid (f :: fs) (b ++ bs)

/-- The reader takes one field off the front. -/
theorem readFieldsFrom?_spelled {f : Field} {b : Bytes} (h : f.Spelled b) (fuel depth : Nat)
    (rest : Bytes) :
    readFieldsFrom? (fuel + 1) depth (b ++ rest) = (readFieldsFrom? fuel depth rest).map (f :: ·) := by
  have pos := h.length_pos
  cases h with
  | @mk key content numbered fits keyed filled =>
    have read := readKey?_spells keyed numbered f.content.form_lt fits (content ++ rest)
    obtain ⟨more, hmore⟩ : ∃ n, 2 * (key ++ (content ++ rest)).length = n + 1 := by
      refine ⟨2 * (key ++ (content ++ rest)).length - 1, ?_⟩
      simp only [List.length_append] at pos ⊢
      omega
    rw [List.append_assoc]
    obtain ⟨x, xs, hx⟩ := List.exists_cons_of_length_pos keyed.length_pos
    have front : key ++ (content ++ rest) = x :: (xs ++ (content ++ rest)) := by rw [hx]; rfl
    rw [front] at read hmore ⊢
    simp only [readFieldsFrom?, read, hmore, readContent?_spelled filled, Option.bind_eq_bind,
      Option.bind_some]
    cases readFieldsFrom? fuel depth rest with
    | none => rfl
    | some fs => rfl

/-- Fields that are laid out are read in their order. -/
theorem readFieldsFrom?_laid {fs : List Field} {bs : Bytes} (h : Laid fs bs) (fuel depth : Nat)
    (enough : bs.length ≤ fuel) : readFieldsFrom? fuel depth bs = some fs := by
  induction h generalizing fuel with
  | nil => simp only [readFieldsFrom?]
  | cons first rest ih =>
    have pos := first.length_pos
    rw [List.length_append] at enough
    cases fuel with
    | zero => omega
    | succ fuel => rw [readFieldsFrom?_spelled first, ih fuel (by omega), Option.map_some]

/-- The reader takes laid bytes apart into the fields. -/
theorem readFields?_laid {fs : List Field} {bs : Bytes} (h : Laid fs bs) (depth : Nat) :
    readFields? depth bs = some fs :=
  readFieldsFrom?_laid h bs.length depth (Nat.le_refl _)

/-! ## Fields of other numbers -/

/-- The content of a field that the protocol declares: a number of 64 bits, or bytes. -/
def Content.Plain : Content → Prop
  | varint n => n < Bits.count64
  | bytes _ => True
  | _ => False

/-- A field that is written by whoever declares the fields up to a number. -/
structure Field.Written (count : Nat) (f : Field) : Prop where
  numbered : 1 ≤ f.number
  declared : f.number ≤ count
  plain : f.content.Plain

/-- What is written spells the field. -/
theorem Field.Written.spelled {count : Nat} {f : Field} (w : f.Written count)
    (room : count * 8 + 8 ≤ Bits.count32) (short : f.write.length < Bits.count64) :
    f.Spelled f.write := by
  have form := f.content.form_lt
  have keyFits : f.number * 8 + f.content.form < Bits.count32 := by
    have declared := w.declared
    omega
  have keyed := spells_varint (Nat.lt_trans keyFits (by decide))
  refine .mk w.numbered keyFits keyed ?_
  have plain := w.plain
  unfold Field.write at short
  cases hc : f.content with
  | varint n =>
    rw [hc] at plain
    exact .varint (spells_varint plain)
  | bytes bs =>
    rw [hc] at short
    simp only [List.length_append] at short
    exact .bytes (spells_varint (by omega))
  | fixed64 bs => rw [hc] at plain; exact plain.elim
  | group => rw [hc] at plain; exact plain.elim
  | fixed32 bs => rw [hc] at plain; exact plain.elim

/-- The bytes are the fields of a message as they are written, with any number of spelled fields
before, between and after them, whose numbers are beyond those that the message declares. -/
inductive Padded (count : Nat) : List Field → Bytes → Prop
  | done : Padded count [] []
  | own {fs : List Field} {bs : Bytes} (f : Field) (rest : Padded count fs bs) :
      Padded count (f :: fs) (f.write ++ bs)
  | foreign {fs : List Field} {f : Field} {b bs : Bytes} (undeclared : count < f.number)
      (spelled : f.Spelled b) (rest : Padded count fs bs) : Padded count fs (b ++ bs)

/-- Nothing needs to lie between the fields. -/
theorem padded_writeFields (count : Nat) (fs : List Field) : Padded count fs (writeFields fs) := by
  induction fs with
  | nil => exact .done
  | cons f fs ih => exact .own f ih

/-- No layout is shorter than the usual one. -/
theorem Padded.length_le {count : Nat} {fs : List Field} {bs : Bytes} (h : Padded count fs bs) :
    (writeFields fs).length ≤ bs.length := by
  induction h with
  | done => exact Nat.le_refl _
  | own f rest ih =>
    rw [List.length_append]
    show (f.write ++ writeFields _).length ≤ _
    rw [List.length_append]
    omega
  | foreign _ _ _ ih =>
    rw [List.length_append]
    omega

/-- The reader finds the fields of the message, in their order, among others that it passes over. -/
theorem Padded.laid {count : Nat} {fs : List Field} {bs : Bytes} (h : Padded count fs bs)
    (written : ∀ f ∈ fs, f.Written count) (room : count * 8 + 8 ≤ Bits.count32)
    (short : bs.length < Bits.count64) :
    ∃ gs, Laid gs bs ∧ gs.filter (fun f => f.number ≤ count) = fs := by
  induction h with
  | done => exact ⟨[], .nil, rfl⟩
  | own f rest ih =>
    rw [List.length_append] at short
    have w := written f List.mem_cons_self
    obtain ⟨gs, laid, filtered⟩ := ih (fun g hg => written g (List.mem_cons_of_mem f hg)) (by omega)
    refine ⟨f :: gs, .cons (w.spelled room (by omega)) laid, ?_⟩
    rw [List.filter_cons, if_pos (decide_eq_true w.declared), filtered]
  | @foreign _ f _ _ undeclared spelled rest ih =>
    rw [List.length_append] at short
    obtain ⟨gs, laid, filtered⟩ := ih written (by omega)
    refine ⟨f :: gs, .cons spelled laid, ?_⟩
    have passed : ¬ decide (f.number ≤ count) = true := fun h =>
      absurd (of_decide_eq_true h) (Nat.not_le.2 undeclared)
    rw [List.filter_cons, if_neg passed, filtered]

end WorkDispatch.Wire
