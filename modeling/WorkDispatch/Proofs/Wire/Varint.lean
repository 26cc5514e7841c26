import WorkDispatch.Wire.Message

/-!
# Numbers on the wire

`Spells` says which bytes stand for a number of up to 64 bits. It allows more than the writer makes
use of: a number may end in groups that are zero, as long as there are ten bytes at most.

`readVarint?_spells` says that the reader takes such bytes from the front of any others, and
`spells_varint` that the writer produces some for every number of 64 bits. Signed numbers are written
as the 64 bits that stand for them, and `int32Of_word` and `int64Of_word` say that this loses nothing.
-/

set_option autoImplicit false

namespace WorkDispatch.Wire

/-! ## Spellings -/

/-- The bytes spell a number in groups of seven bits, the lowest first; the first argument is the
number of bytes that may follow the first one. -/
inductive Groups : Nat → Bytes → Nat → Prop
  | last {left : Nat} {b : UInt8} (unmarked : b < 128) (fits : left = 0 → b < 2) :
      Groups left [b] b.toNat
  | more {left : Nat} {b : UInt8} {bs : Bytes} {n : Nat} (marked : ¬ b < 128)
      (rest : Groups left bs n) : Groups (left + 1) (b :: bs) (b.toNat - 128 + n * 128)

/-- The bytes spell a number of 64 bits. -/
def Spells (bs : Bytes) (n : Nat) : Prop := Groups 9 bs n

/-- A number takes one group at least. -/
theorem Groups.length_pos {left : Nat} {bs : Bytes} {n : Nat} (h : Groups left bs n) :
    0 < bs.length := by
  cases h with
  | last => exact Nat.zero_lt_one
  | more => exact Nat.zero_lt_succ _

/-- The groups of a number are read, each with its weight. -/
theorem readGroups?_groups {left : Nat} {bs : Bytes} {n : Nat} (h : Groups left bs n)
    (shift : Nat) (rest : Bytes) :
    readGroups? left shift (bs ++ rest) = some (n * Nat.pow 2 shift, rest) := by
  induction h generalizing shift with
  | @last left b unmarked fits =>
    have inside : ¬ (left = 0 ∧ 2 ≤ b) := fun h => UInt8.not_le.2 (fits h.1) h.2
    show readGroups? left shift (b :: rest) = _
    unfold readGroups?
    rw [if_pos unmarked, if_neg inside]
  | @more left b bs n marked _ ih =>
    have weight : Nat.pow 2 (shift + 7) = Nat.pow 2 shift * 128 := Nat.pow_add 2 shift 7
    simp only [List.cons_append, readGroups?, if_neg marked, ih, Option.map_some, weight]
    rw [Nat.add_mul, Nat.mul_assoc n, Nat.mul_comm 128]

/-- The reader takes a spelling from the front of any bytes. -/
theorem readVarint?_spells {bs : Bytes} {n : Nat} (h : Spells bs n) (rest : Bytes) :
    readVarint? (bs ++ rest) = some (n, rest) := by
  rw [readVarint?, readGroups?_groups h]
  show some (n * 1, rest) = _
  rw [Nat.mul_one]

/-- A number below 128 is one byte. -/
theorem groups_varint_of_lt {left n : Nat} (small : n < 128) (fits : left = 0 → n < 2) :
    Groups left (varint n) n := by
  have byte : (UInt8.ofNat n).toNat = n := by
    rw [UInt8.toNat_ofNat']
    omega
  have last : Groups left [UInt8.ofNat n] (UInt8.ofNat n).toNat := by
    refine .last (UInt8.lt_iff_toNat_lt.2 ?_) fun h => UInt8.lt_iff_toNat_lt.2 ?_
    · rw [byte]; exact small
    · rw [byte]; exact fits h
  rw [byte] at last
  rw [varint, if_pos small]
  exact last

/-- The usual spelling is one in groups. -/
theorem groups_varint (left n : Nat) (h : n < Nat.pow 2 (7 * left + 1)) :
    Groups left (varint n) n := by
  induction left generalizing n with
  | zero => exact groups_varint_of_lt (Nat.lt_trans h (by decide)) fun _ => h
  | succ left ih =>
    by_cases small : n < 128
    · exact groups_varint_of_lt small fun h => nomatch h
    · have byte : (UInt8.ofNat (n % 128 + 128)).toNat = n % 128 + 128 := by
        rw [UInt8.toNat_ofNat']
        omega
      have marked : ¬ UInt8.ofNat (n % 128 + 128) < 128 := by
        intro low
        have low : (UInt8.ofNat (n % 128 + 128)).toNat < 128 := UInt8.lt_iff_toNat_lt.1 low
        omega
      have weight : Nat.pow 2 (7 * (left + 1) + 1) = 128 * Nat.pow 2 (7 * left + 1) := by
        rw [show 7 * (left + 1) + 1 = 7 + (7 * left + 1) by omega]
        exact Nat.pow_add 2 7 (7 * left + 1)
      have rest := ih (n / 128) (Nat.div_lt_of_lt_mul (by rw [← weight]; exact h))
      have whole := Groups.more marked rest
      rw [byte, Nat.add_sub_cancel, Nat.mod_add_div'] at whole
      rw [varint, if_neg small]
      exact whole

/-- The writer spells every number of 64 bits. -/
theorem spells_varint {n : Nat} (h : n < Bits.count64) : Spells (varint n) n := groups_varint 9 n h

/-- The reader takes as many numbers as were written, to the end. -/
theorem readVarints?_flatMap {ns : List Nat} (h : ∀ n ∈ ns, n < Bits.count64) (fuel : Nat)
    (enough : (ns.flatMap varint).length ≤ fuel) :
    readVarints? fuel (ns.flatMap varint) = some ns := by
  induction ns generalizing fuel with
  | nil => cases fuel <;> rfl
  | cons n ns ih =>
    have first := spells_varint (h n List.mem_cons_self)
    have pos := first.length_pos
    rw [List.flatMap_cons, List.length_append] at enough
    obtain ⟨b, bs, hb⟩ := List.exists_cons_of_length_pos pos
    cases fuel with
    | zero => omega
    | succ fuel =>
      have rest := ih (fun m hm => h m (List.mem_cons_of_mem n hm)) fuel (by omega)
      have read := readVarint?_spells first (ns.flatMap varint)
      rw [List.flatMap_cons]
      rw [hb, List.cons_append] at read ⊢
      simp only [readVarints?, read, rest, Option.bind_eq_bind, Option.bind_some]

/-! ## Signed numbers -/

/-- A word fits into 64 bits. -/
theorem word_lt (n : Int) : Write.word n < Bits.count64 := by
  have nonneg := Int.emod_nonneg n (show ((Bits.count64 : Nat) : Int) ≠ 0 by decide)
  have below := Int.emod_lt_of_pos n (show (0 : Int) < ((Bits.count64 : Nat) : Int) by decide)
  unfold Write.word
  omega

/-- It is the number up to a multiple of them. -/
theorem word_cast (n : Int) : (Write.word n : Int) = n % (Bits.count64 : Nat) :=
  Int.toNat_of_nonneg (Int.emod_nonneg n (by decide))

/-- The low half of the word of a number of 32 bits is the number. -/
theorem int32Of_word (n : Int32) : Read.int32Of (Write.word n.toInt) = n := by
  apply Int32.toInt_inj.1
  rw [Read.int32Of, Int32.toInt_ofInt, word_cast]
  calc (n.toInt % (Bits.count64 : Nat)).bmod Int32.size
      = (n.toInt % (Bits.count64 : Nat) % (Int32.size : Nat)).bmod Int32.size :=
        (Int.emod_bmod _ _).symm
    _ = (n.toInt % (Int32.size : Nat)).bmod Int32.size := by
        rw [Int.emod_emod_of_dvd _ (by decide)]
    _ = n.toInt.bmod Int32.size := Int.emod_bmod _ _
    _ = n.toInt := n.toInt_bmod

/-- A number comes back from its word. -/
theorem int64Of_word (n : Int64) : Read.int64Of (Write.word n.toInt) = n := by
  apply Int64.toInt_inj.1
  rw [Read.int64Of, Int64.toInt_ofInt, word_cast]
  exact (Int.emod_bmod _ _).trans n.toInt_bmod

end WorkDispatch.Wire
