import WorkDispatch.Fresh

/-!
# Fresh names differ

A number is read back from its hexadecimal digits, whatever the zeros in front of them, so the forms of
two numbers differ (`token_injective`).
-/

set_option autoImplicit false

namespace WorkDispatch.Fresh

/-- The value of a hexadecimal digit in lower case. -/
def digitValue (c : Char) : Nat := if c.isDigit then c.toNat - 48 else c.toNat - 87

/-- The number that hexadecimal digits spell. -/
def value (cs : List Char) : Nat := cs.foldl (fun n c => 16 * n + digitValue c) 0

/-- A digit has the value that it was written for. -/
theorem digitValue_digitChar {n : Nat} (h : n < 16) : digitValue n.digitChar = n := by
  have all : ∀ k : Fin 16, digitValue k.val.digitChar = k.val := by decide
  exact all ⟨n, h⟩

/-- One more digit counts sixteen times what stands before it. -/
theorem value_concat (cs : List Char) (c : Char) :
    value (cs ++ [c]) = 16 * value cs + digitValue c := by
  simp only [value, List.foldl_append, List.foldl_cons, List.foldl_nil]

/-- Digits have the value of the number that they are written for. -/
theorem value_toDigits (n : Nat) : value (Nat.toDigits 16 n) = n := by
  induction n using Nat.strongRecOn with
  | ind n ih =>
    rcases Nat.lt_or_ge n 16 with small | large
    · have one := value_concat [] n.digitChar
      rw [List.nil_append, digitValue_digitChar small] at one
      rw [Nat.toDigits_of_lt_base small, one, value, List.foldl_nil, Nat.mul_zero, Nat.zero_add]
    · have front := ih (n / 16) (by omega)
      have last := digitValue_digitChar (Nat.mod_lt n (by decide : 0 < 16))
      rw [Nat.toDigits_of_base_le (by decide) large, value_concat, front, last, Nat.div_add_mod]

/-- Leading zeros do not count. -/
theorem value_zeros (k : Nat) (cs : List Char) : value (List.replicate k '0' ++ cs) = value cs := by
  induction k with
  | zero => rfl
  | succ k ih =>
    rw [← ih]
    rfl

/-- The number is read back from its digits. -/
theorem value_hex (width n : Nat) : value (hex width n).toList = n := by
  rw [hex, String.toList_ofList, value_zeros, value_toDigits]

/-- No token is given twice. -/
theorem token_injective {m n : Nat} (h : token m = token n) : m = n := by
  rw [← value_hex 64 m, ← value_hex 64 n]
  exact congrArg (fun s => value s.toList) h

end WorkDispatch.Fresh
