/-!
Blank characters: the white space of Unicode, which is more than core's four ASCII blanks and the
carriage return. `isBlank_of_isWhitespace` says that it contains them.
-/

set_option autoImplicit false

namespace WorkDispatch.Text

/-- The characters with the property White_Space, as closed ranges of code points. -/
def blankRanges : List (Nat × Nat) :=
  [(0x09, 0x0D), (0x20, 0x20), (0x85, 0x85), (0xA0, 0xA0), (0x1680, 0x1680), (0x2000, 0x200A),
   (0x2028, 0x2029), (0x202F, 0x202F), (0x205F, 0x205F), (0x3000, 0x3000)]

/-- Whether a character is white space. -/
def isBlank (c : Char) : Bool :=
  blankRanges.any fun (lo, hi) => lo ≤ c.toNat && c.toNat ≤ hi

/-- Drops the blanks that a text begins with. -/
def skipBlanks (cs : List Char) : List Char := cs.dropWhile isBlank

/-- Whether nothing but blanks is left. -/
def isAllBlank (s : String) : Bool := s.toList.all isBlank

/-- What core takes for white space is blank. -/
theorem isBlank_of_isWhitespace {c : Char} (h : c.isWhitespace = true) : isBlank c = true := by
  simp only [Char.isWhitespace, Bool.or_eq_true, decide_eq_true_eq] at h
  rcases h with ((h | h) | h) | h <;> subst h <;> decide

end WorkDispatch.Text
