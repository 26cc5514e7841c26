import WorkDispatch.Text.Utf8

/-!
Numbers of up to 64 bits in groups of seven, the lowest first, each byte but the last marked.
`readVarint?` takes at most ten bytes, the tenth of which may add one bit only.
-/

set_option autoImplicit false

namespace WorkDispatch.Wire

/-- The groups of a number. -/
def varint (n : Nat) : Bytes :=
  if n < 128 then [UInt8.ofNat n] else UInt8.ofNat (n % 128 + 128) :: varint (n / 128)
termination_by n
decreasing_by omega

/-- Reads a number whose first group counts `2 ^ shift`; the first argument is the number of bytes
that may follow. -/
def readGroups? : Nat → Nat → Bytes → Option (Nat × Bytes)
  | _, _, [] => none
  | left, shift, b :: rest =>
    if b < 128 then
      if left = 0 ∧ 2 ≤ b then none else some (b.toNat * Nat.pow 2 shift, rest)
    else
      match left with
      | 0 => none
      | left + 1 => (readGroups? left (shift + 7) rest).map fun (n, r) =>
        ((b.toNat - 128) * Nat.pow 2 shift + n, r)

/-- The number at the front of the bytes. -/
def readVarint? (bs : Bytes) : Option (Nat × Bytes) := readGroups? 9 0 bs

/-- All numbers of the bytes, to the end. -/
def readVarints? : Nat → Bytes → Option (List Nat)
  | _, [] => some []
  | 0, _ => none
  | fuel + 1, bs => do
    let (n, rest) ← readVarint? bs
    some (n :: (← readVarints? fuel rest))

end WorkDispatch.Wire
