import WorkDispatch.Text.Utf8

/-!
JSON documents. `Tree` leaves open what a string is: the scanner keeps strings as they are written,
and `Json` has them read. An object keeps its members in the order they were written, repeated ones
included, so that a reader can refuse a repetition.
-/

set_option autoImplicit false

namespace WorkDispatch.Json

/-- A number as it is written: a whole number, or digits with an exponent of ten. A minus sign
before a zero counts as the second, for no whole number is written so. -/
inductive Number where
  | integer (n : Int)
  | decimal (negative : Bool) (digits : Nat) (exponent : Int)
  deriving DecidableEq, Repr

/-- A document whose strings and member names have the type `σ`. -/
inductive Tree (σ : Type) where
  | null
  | bool (b : Bool)
  | number (n : Number)
  | string (s : σ)
  | array (items : List (Tree σ))
  | object (members : List (σ × Tree σ))
  deriving Repr

instance {σ : Type} : Inhabited (Tree σ) := ⟨.null⟩

end WorkDispatch.Json

namespace WorkDispatch

/-- A document whose strings are read. -/
abbrev Json := Json.Tree String

namespace Json

/-- A whole number. -/
def ofInt (n : Int) : Json := .number (.integer n)

/-- A count. -/
def ofNat (n : Nat) : Json := .number (.integer n)

/-- Null for nothing. -/
def ofOption {α : Type} (f : α → Json) : Option α → Json
  | none => .null
  | some a => f a

/-- A list of strings. -/
def ofStrings (xs : List String) : Json := .array (xs.map .string)

/-- An object with string values. -/
def ofLabels (xs : List (String × String)) : Json := .object (xs.map fun (k, v) => (k, .string v))

/-- The last member of a name. -/
def get? (doc : Json) (key : String) : Option Json :=
  match doc with
  | .object members => (members.reverse.find? (·.1 == key)).map (·.2)
  | _ => none

end Json

end WorkDispatch
