import WorkDispatch.Text.Utf8

/-!
# The bytes of a text

A text is written one character after the other: `toUtf8_eq_flatMap`. A character below 128 is one
byte of its own number, and all bytes of the others are above, so that whoever looks for an ASCII
mark in the bytes of a text finds no part of another character.
-/

set_option autoImplicit false

namespace WorkDispatch.Text

/-- The bytes of texts one after another are their bytes one after another. -/
theorem toUtf8_append (s t : String) : toUtf8 (s ++ t) = toUtf8 s ++ toUtf8 t := by
  unfold toUtf8
  rw [String.toByteArray_append, ByteArray.data_append, Array.toList_append]

/-- The bytes of a text are those of its characters. -/
theorem toUtf8_ofList (cs : List Char) :
    toUtf8 (String.ofList cs) = cs.flatMap String.utf8EncodeChar := by
  unfold toUtf8
  rw [String.toByteArray_ofList, List.utf8Encode, List.data_toByteArray]

/-- The bytes of a text are those of its characters. -/
theorem toUtf8_eq_flatMap (s : String) : toUtf8 s = s.toList.flatMap String.utf8EncodeChar := by
  rw [← toUtf8_ofList, String.ofList_toList]

/-- The first characters have one byte each. -/
theorem utf8EncodeChar_of_lt {c : Char} (h : c.toNat < 128) :
    String.utf8EncodeChar c = [UInt8.ofNat c.toNat] := by
  unfold String.utf8EncodeChar
  exact if_pos (Nat.le_of_lt_succ h)

/-- No byte of a character beyond ASCII is an ASCII character. -/
theorem le_of_mem_utf8EncodeChar {c : Char} (h : 128 ≤ c.toNat) {b : UInt8}
    (hb : b ∈ String.utf8EncodeChar c) : 128 ≤ b.toNat := by
  have bytes : ∀ n : Nat, 128 ≤ n → n < 256 → 128 ≤ (UInt8.ofNat n).toNat := by
    intro n least most
    rw [UInt8.toNat_ofNat']
    omega
  have above : ¬ c.val.toNat ≤ 0x7f := Nat.not_le.2 h
  unfold String.utf8EncodeChar at hb
  simp only [if_neg above] at hb
  split at hb
  · simp only [List.mem_cons, List.not_mem_nil, or_false] at hb
    rcases hb with rfl | rfl
    · exact bytes _ (by omega) (by omega)
    · exact bytes _ (by omega) (by omega)
  · split at hb
    · simp only [List.mem_cons, List.not_mem_nil, or_false] at hb
      rcases hb with rfl | rfl | rfl
      · exact bytes _ (by omega) (by omega)
      · exact bytes _ (by omega) (by omega)
      · exact bytes _ (by omega) (by omega)
    · simp only [List.mem_cons, List.not_mem_nil, or_false] at hb
      rcases hb with rfl | rfl | rfl | rfl
      · exact bytes _ (by omega) (by omega)
      · exact bytes _ (by omega) (by omega)
      · exact bytes _ (by omega) (by omega)
      · exact bytes _ (by omega) (by omega)

end WorkDispatch.Text
