/-!
How many numbers there are of so many bits. The widths that the system's messages and counters have
are written out, so that a bound is a plain number.
-/

set_option autoImplicit false

namespace WorkDispatch.Bits

/-- How many numbers have so many bits. -/
def count (width : Nat) : Nat := Nat.pow 2 width

abbrev count31 : Nat := 2147483648
abbrev count32 : Nat := 4294967296
abbrev count52 : Nat := 4503599627370496
abbrev count56 : Nat := 72057594037927936
abbrev count61 : Nat := 2305843009213693952
abbrev count63 : Nat := 9223372036854775808
abbrev count64 : Nat := 18446744073709551616

example : [31, 32, 52, 56, 61, 63, 64].map count =
    [count31, count32, count52, count56, count61, count63, count64] := by decide

end WorkDispatch.Bits
