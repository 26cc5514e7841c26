/-!
Sets of characters as the places where runs of members begin and end.
-/

set_option autoImplicit false

namespace WorkDispatch.Text

/-- Whether a character lies in a run of members, given where runs of members and of others begin by
turns: then the number of places at or below it is odd. -/
def inRuns (bounds : List Nat) (c : Char) : Bool :=
  (bounds.takeWhile (· ≤ c.toNat)).length % 2 = 1

end WorkDispatch.Text
