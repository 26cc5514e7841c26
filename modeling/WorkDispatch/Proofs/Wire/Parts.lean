import WorkDispatch.Proofs.Labels
import WorkDispatch.Proofs.Wire.Reading

/-!
# The parts of messages

For each way of writing a value there is a `Part`: what is written of it puts the value in the place
of the default, and a default, of which nothing is written, stays. A message is `Lossless` when its
parts make up the whole of it, and when it passes over fields of other numbers. Messages inside
messages are read by the same law, so a message that holds others is lossless when they are.
-/

set_option autoImplicit false

namespace WorkDispatch.Wire

variable {α : Type} {merge : α → Field → Option α} {tag : Nat}

/-! ## Numbers, texts and bytes -/

/-- A number of 32 bits is a part of its message, and is left out when it is zero. -/
theorem Part.int32 (n : Int32) (set : Int32 → α)
    (h : ∀ c, merge (set 0) ⟨tag, c⟩ = (Read.int32? c).map set) :
    Part merge tag (set 0) (Write.int32 tag n) (set n) := by
  unfold Write.int32 Write.number
  split
  · next zero =>
    have zero : n = 0 := Int32.toInt_inj.1 zero
    rw [zero]
    exact .absent
  · refine .one (word_lt _) fun _ => ?_
    rw [h, Read.int32?, int32Of_word, Option.map_some]

/-- So is one of 64 bits. -/
theorem Part.int64 (n : Int64) (set : Int64 → α)
    (h : ∀ c, merge (set 0) ⟨tag, c⟩ = (Read.int64? c).map set) :
    Part merge tag (set 0) (Write.int64 tag n) (set n) := by
  unfold Write.int64 Write.number
  split
  · next zero =>
    have zero : n = 0 := Int64.toInt_inj.1 zero
    rw [zero]
    exact .absent
  · refine .one (word_lt _) fun _ => ?_
    rw [h, Read.int64?, int64Of_word, Option.map_some]

/-- So is a truth value, left out when it is false. -/
theorem Part.bool (b : Bool) (set : Bool → α)
    (h : ∀ c, merge (set false) ⟨tag, c⟩ = (Read.bool? c).map set) :
    Part merge tag (set false) (Write.bool tag b) (set b) := by
  cases b with
  | false => exact .absent
  | true => exact .one (by decide : 1 < Bits.count64) fun _ => h _

/-- So are bytes, left out when there are none. -/
theorem Part.bytes (b : Bytes) (set : Bytes → α)
    (h : ∀ c, merge (set []) ⟨tag, c⟩ = (Read.bytes? c).map set) :
    Part merge tag (set []) (Write.bytes tag b) (set b) := by
  unfold Write.bytes
  split
  · next empty =>
    rw [empty]
    exact .absent
  · exact .one trivial fun _ => h _

/-- So is a text, left out when it is empty. -/
theorem Part.string (s : String) (set : String → α)
    (h : ∀ c, merge (set "") ⟨tag, c⟩ = (Read.string? c).map set) :
    Part merge tag (set "") (Write.string tag s) (set s) := by
  unfold Write.string Write.bytes
  split
  · next empty =>
    -- Only the empty text is written as no bytes, since both are read back.
    have same : some s = some "" := by
      rw [← Text.ofUtf8?_toUtf8 s, empty, ← Text.ofUtf8?_toUtf8 ""]
      rfl
    rw [Option.some.inj same]
    exact .absent
  · refine .one trivial fun _ => ?_
    rw [h]
    show ((some (Text.toUtf8 s)).bind Text.ofUtf8?).map set = _
    rw [Option.bind_some, Text.ofUtf8?_toUtf8, Option.map_some]

/-- So are packed numbers. -/
theorem Part.packed (ns : List Int32) (set : List Int32 → α)
    (h : ∀ c, merge (set []) ⟨tag, c⟩ = (Read.packed? [] c).map set) :
    Part merge tag (set []) (Write.packed tag ns) (set ns) := by
  let words : List Nat := ns.map fun n => Write.word n.toInt
  have bytes : (ns.flatMap fun n => varint (Write.word n.toInt)) = words.flatMap varint := by
    rw [List.flatMap_map]
  have small : ∀ w ∈ words, w < Bits.count64 := by
    intro w hw
    obtain ⟨n, _, rfl⟩ := List.mem_map.1 hw
    exact word_lt _
  have back : words.map Read.int32Of = ns := by
    rw [List.map_map]
    exact (List.map_congr_left fun n _ => int32Of_word n).trans (List.map_id ns)
  have read : Read.packed? [] (.bytes (words.flatMap varint)) = some ns := by
    simp only [Read.packed?, readVarints?_flatMap small _ (Nat.le_refl _), Option.map_some, back,
      List.nil_append]
  unfold Write.packed Write.bytes
  rw [bytes]
  split
  · next empty =>
    rw [empty] at read
    have none : ns = [] := (Option.some.inj read).symm
    rw [none]
    exact .absent
  · refine .one trivial fun _ => ?_
    rw [h, read, Option.map_some]

/-! ## Messages -/

/-- What is written of a message is the whole of it, and fields of a number beyond those that it
declares do not change it. -/
structure Lossless (α : Type) [Message α] (count : Nat) : Prop where
  room : count * 8 + 8 ≤ Bits.count32
  reads : ∀ (depth : Nat) (m : α),
    Reads (Message.merge depth) count Message.blank (Message.fields m) m
  passed : ∀ (depth : Nat) (m : α) (f : Field), count < f.number →
    Message.merge depth m f = some m

/-- A message is read back among foreign fields. -/
theorem Lossless.mergeBytes {α : Type} [Message α] {count : Nat} (l : Lossless α count) {m : α}
    {fs : List Field} {bs : Bytes} (shuffled : Shuffled fs (Message.fields m))
    (padded : Padded count fs bs) (short : bs.length < Bits.count64) (depth : Nat) :
    Message.mergeBytes depth Message.blank bs = some m :=
  (l.reads depth m).read (l.passed depth) l.room shuffled padded short depth

/-- What is in a field is shorter than the field. -/
theorem length_lt_of_writeFields {b : Bytes}
    (h : (writeFields [⟨tag, .bytes b⟩]).length < Bits.count64) : b.length < Bits.count64 := by
  have size : (writeFields [⟨tag, .bytes b⟩]).length =
      (varint (tag * 8 + 2)).length + (varint b.length).length + b.length := by
    simp only [writeFields, Field.write, Content.form, List.flatMap_cons, List.flatMap_nil,
      List.append_nil, List.length_append]
    omega
  omega

/-- So is a message within the message. -/
theorem Part.inner {β : Type} [Message β] {count : Nat} (l : Lossless β count) (depth : Nat)
    (o : Option β) (set : Option β → α)
    (h : ∀ c, merge (set none) ⟨tag, c⟩ = (Read.inner? depth none c).map set) :
    Part merge tag (set none) (Write.inner tag o) (set o) := by
  cases o with
  | none => exact .absent
  | some m =>
    refine .one trivial fun short => ?_
    have read : Message.mergeBytes (depth - 1) Message.blank (Message.encode m) = some m :=
      l.mergeBytes (.refl _) (padded_writeFields count (Message.fields m))
        (length_lt_of_writeFields short) (depth - 1)
    rw [h]
    simp only [Read.inner?, Read.bytes?, Option.getD_none, Option.bind_eq_bind, Option.bind_some,
      read, Option.map_some]

/-! ## Maps -/

/-- The field of an entry. -/
def entryField (tag : Nat) (e : String × String) : Field :=
  ⟨tag, .bytes (writeFields (Write.string 1 e.1 ++ Write.string 2 e.2))⟩

/-- An entry of a map is read as its key and its value. -/
theorem reads_entry (e : String × String) :
    Reads Read.entryField 2 ("", "") (Write.string 1 e.1 ++ Write.string 2 e.2) e :=
  (Reads.nil.part (.string e.1 (fun k => (k, "")) fun _ => rfl)).part
    (.string e.2 (fun v => (e.1, v)) fun _ => rfl)

/-- An entry is inserted as it was written. -/
theorem labels?_entryField (tag depth : Nat) (was : Labels) (e : String × String)
    (short : (writeFields [entryField tag e]).length < Bits.count64) :
    Read.labels? depth was (entryField tag e).content = some (was.insert e.1 e.2) := by
  have passed : ∀ (x : String × String) (f : Field), 2 < f.number → Read.entryField x f = some x := by
    intro x f hf
    unfold Read.entryField
    split
    · omega
    · omega
    · rfl
  have read := (reads_entry e).read passed (by decide) (.refl _) (padded_writeFields 2 _)
    (length_lt_of_writeFields short) (depth - 1)
  obtain ⟨fs, found, folded⟩ := Option.bind_eq_some_iff.1 read
  simp only [Read.labels?, entryField, Read.bytes?, Option.bind_eq_bind, Option.bind_some, found,
    folded]

/-- The entries of a map are inserted one after another. -/
theorem foldlM_entryField {depth : Nat} (set : Labels → α)
    (h : ∀ l c, merge (set l) ⟨tag, c⟩ = (Read.labels? depth l c).map set)
    (es : List (String × String)) (l : Labels)
    (short : (writeFields (es.map (entryField tag))).length < Bits.count64) :
    (es.map (entryField tag)).foldlM merge (set l) = some (set (l.insertAll es)) := by
  induction es generalizing l with
  | nil => rfl
  | cons e es ih =>
    simp only [List.map_cons, writeFields, List.flatMap_cons, List.length_append] at short
    have first : merge (set l) (entryField tag e) = some (set (l.insert e.1 e.2)) := by
      have read := labels?_entryField tag depth l e (by
        simp only [writeFields, List.flatMap_cons, List.flatMap_nil, List.append_nil]
        omega)
      exact (h l _).trans ((congrArg (Option.map set) read).trans (Option.map_some ..))
    rw [List.map_cons, List.foldlM_cons, first]
    exact ih (l.insert e.1 e.2) (by unfold writeFields; omega)

/-- A map is read back in whatever order its entries were written. -/
theorem Part.labels (depth : Nat) (m : Labels) (set : Labels → α)
    (h : ∀ l c, merge (set l) ⟨tag, c⟩ = (Read.labels? depth l c).map set) :
    Part merge tag (set .empty) (Write.labels tag m) (set m) where
  tagged f hf := by
    obtain ⟨e, _, rfl⟩ := List.mem_map.1 hf
    rfl
  plain f hf := by
    obtain ⟨e, _, rfl⟩ := List.mem_map.1 hf
    trivial
  taken gs perm short := by
    -- The fields in another order are those of the entries in another order.
    have columns : List.Forall₂ (fun g e => g = entryField tag e)
        (m.entries.map (entryField tag)) m.entries := by
      rw [List.forall₂_map_left_iff]
      exact List.forall₂_same.2 fun _ _ => rfl
    obtain ⟨es, same, order⟩ := List.perm_comp_forall₂ perm columns
    have fields : gs = es.map (entryField tag) := by
      rw [← List.forall₂_eq_eq_eq, List.forall₂_map_right_iff]
      exact same
    have size : (writeFields gs).length = (writeFields (Write.labels tag m)).length :=
      (perm.flatMap_right Field.write).length_eq
    rw [fields] at size ⊢
    rw [foldlM_entryField set h es .empty (by omega)]
    exact congrArg (some ∘ set) (Labels.ofList_perm order)

end WorkDispatch.Wire
