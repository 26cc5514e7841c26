/-!
Names that nobody else has. The supply is a counter, and each name is its number in a form of the kind
that is asked for; the forms of two numbers differ.
-/

set_option autoImplicit false

namespace WorkDispatch.Fresh

/-- A number in lower-case hexadecimal digits, at least so many. -/
def hex (width n : Nat) : String :=
  let ds := Nat.toDigits 16 n
  String.ofList (List.replicate (width - ds.length) '0' ++ ds)

/-- A session token: 64 digits. -/
def token (n : Nat) : String := hex 64 n

/-- An identifier of a task: five groups of digits, of which the third says that nothing about the
task can be read from it. -/
def taskId (n : Nat) : String := "00000000-0000-4000-8000-" ++ hex 12 n

/-- The lengths of the groups of an identifier. -/
def groups : List Nat := [8, 4, 4, 4, 12]

/-- Whether a text has the form of an identifier of a task. -/
def isTaskId (s : String) : Bool :=
  let parts := s.splitOn "-"
  parts.map String.length == groups &&
    parts.all (fun p => p.toList.all fun c => c.isDigit || 'a' ≤ c && c ≤ 'f') &&
    (parts[2]?.getD "").startsWith "4" &&
    ["8", "9", "a", "b"].contains (((parts[3]?.getD "").take 1).toString)

end WorkDispatch.Fresh
