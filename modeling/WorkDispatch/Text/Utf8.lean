/-!
Bytes and text. `ofUtf8?` reads bytes as text and refuses the whole when any part is not well formed;
`ofUtf8Lossy` reads every byte string and puts one replacement character for each longest piece that
could have begun a character. `ofUtf8?_toUtf8` says that writing loses nothing.
-/

set_option autoImplicit false

namespace WorkDispatch

/-- A byte string, as a list, so that readers are recursions on it. -/
abbrev Bytes := List UInt8

namespace Text

/-- The encoding of a text. -/
def toUtf8 (s : String) : Bytes := s.toByteArray.data.toList

/-- The text that the bytes encode, when they encode one. -/
def ofUtf8? (b : Bytes) : Option String := String.fromUTF8? ⟨b.toArray⟩

/-- The ranges that the bytes after a leading byte must lie in. A leading byte that opens no
character has none, and so does a byte that is a character by itself. -/
def continuations (b : UInt8) : List (UInt8 × UInt8) :=
  if 0xC2 ≤ b ∧ b ≤ 0xDF then [(0x80, 0xBF)]
  else if b = 0xE0 then [(0xA0, 0xBF), (0x80, 0xBF)]
  else if b = 0xED then [(0x80, 0x9F), (0x80, 0xBF)]
  else if 0xE1 ≤ b ∧ b ≤ 0xEF then [(0x80, 0xBF), (0x80, 0xBF)]
  else if b = 0xF0 then [(0x90, 0xBF), (0x80, 0xBF), (0x80, 0xBF)]
  else if b = 0xF4 then [(0x80, 0x8F), (0x80, 0xBF), (0x80, 0xBF)]
  else if 0xF1 ≤ b ∧ b ≤ 0xF3 then [(0x80, 0xBF), (0x80, 0xBF), (0x80, 0xBF)]
  else []

/-- How many of the bytes fit the ranges, taken in order. -/
def fitting : List (UInt8 × UInt8) → Bytes → Nat
  | (lo, hi) :: rs, b :: bs => if lo ≤ b ∧ b ≤ hi then fitting rs bs + 1 else 0
  | _, _ => 0

/-- The number that a leading byte and its continuation bytes spell. -/
def codePoint (lead : UInt8) (rest : Bytes) : Nat :=
  let mask := match rest.length with
    | 1 => 0x1F
    | 2 => 0x0F
    | _ => 0x07
  rest.foldl (fun n b => n * 64 + b.toNat % 64) (lead.toNat % (mask + 1))

/-- Reads any bytes: a piece that begins a character and does not finish it, and a byte that begins
none, each become one replacement character. -/
def lossyChars : Bytes → List Char
  | [] => []
  | b :: bs =>
    if b < 0x80 then Char.ofNat b.toNat :: lossyChars bs
    else
      let wanted := continuations b
      let n := fitting wanted bs
      let c := if 0 < wanted.length ∧ n = wanted.length then Char.ofNat (codePoint b (bs.take n))
        else '\uFFFD'
      c :: lossyChars (bs.drop n)
termination_by bs => bs.length
decreasing_by all_goals simp only [List.length_drop, List.length_cons]; omega

/-- The text of any bytes, with replacement characters where they are not well formed. -/
def ofUtf8Lossy (b : Bytes) : String := String.ofList (lossyChars b)

/-- A text is read back from its bytes. -/
@[simp] theorem ofUtf8?_toUtf8 (s : String) : ofUtf8? (toUtf8 s) = some s := by
  have h : (⟨s.toByteArray.data.toList.toArray⟩ : ByteArray) = s.toByteArray := by
    rw [Array.toArray_toList]
  simp only [ofUtf8?, toUtf8, h, String.fromUTF8?]
  split
  · rfl
  · next hn => exact absurd s.isValidUTF8 (by simpa [ByteArray.validateUTF8_eq_true_iff] using hn)

end Text

end WorkDispatch
