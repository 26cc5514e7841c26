/-!
TOML documents: the values a configuration file can hold. A date is kept as its text, for nothing
here computes with it.
-/

set_option autoImplicit false

namespace WorkDispatch.Toml

/-- A value of a file. -/
inductive Value where
  | string (s : String)
  | integer (n : Int)
  | float (x : Float)
  | bool (b : Bool)
  | date (text : String)
  | array (items : List Value)
  | table (entries : List (String × Value))

instance : Inhabited Value := ⟨.table []⟩

end WorkDispatch.Toml
