import WorkDispatch.Binary64
import WorkDispatch.Json.Tree
import WorkDispatch.Text.Lower
import WorkDispatch.Toml.Value

/-!
Layers of settings: trees of values, one of which is laid over another. A table is laid over key by
key, and keys do not tell capitals from small letters.
-/

set_option autoImplicit false

namespace WorkDispatch.Settings

open Text

/-- A value of a layer. -/
inductive Layer where
  | null
  | bool (b : Bool)
  | integer (n : Int)
  | float (x : Float)
  | string (s : String)
  | array (items : List Layer)
  | table (entries : List (String × Layer))

namespace Layer

instance : Inhabited Layer := ⟨.null⟩

/-- The entries of a table, and none of anything else. -/
def entries : Layer → List (String × Layer)
  | table es => es
  | _ => []

/-- The entries with the one of a key changed, or added when there is none. -/
def alter (key : String) (f : Option Layer → Layer) : List (String × Layer) → List (String × Layer)
  | [] => [(key, f none)]
  | e :: es => if e.1 = key then (key, f (some e.2)) :: es else e :: alter key f es

mutual

/-- Lays a value over what was there. A table is laid over key by key, and what is no table gives way
to the first key. -/
def lay (was : Option Layer) : Layer → Layer
  | table es =>
    match es with
    | [] => was.getD (table [])
    | e :: es => layEntries (table (alter (lower e.1) (fun w => lay w e.2) (was.getD null).entries)) es
  | v => v

/-- Lays the entries of a table over a value. -/
def layEntries (was : Layer) : List (String × Layer) → Layer
  | [] => was
  | e :: es => layEntries (table (alter (lower e.1) (fun w => lay w e.2) was.entries)) es

end

/-! ## Documents and files as layers -/

mutual

/-- The layer of a document. -/
def ofJson : Json → Layer
  | .null => null
  | .bool b => bool b
  | .number (.integer n) => integer n
  | .number n => float (Binary64.ofNumber n)
  | .string s => string s
  | .array xs => array (ofItems xs)
  | .object ms => table (ofMembers ms)

def ofItems : List Json → List Layer
  | [] => []
  | x :: xs => ofJson x :: ofItems xs

def ofMembers : List (String × Json) → List (String × Layer)
  | [] => []
  | (k, x) :: ms => (k, ofJson x) :: ofMembers ms

end

mutual

/-- The layer of a value in a file. -/
def ofToml : Toml.Value → Layer
  | .string s => string s
  | .integer n => integer n
  | .float x => float x
  | .bool b => bool b
  | .date text => string text
  | .array xs => array (ofTomlItems xs)
  | .table es => table (ofTomlEntries es)

def ofTomlItems : List Toml.Value → List Layer
  | [] => []
  | x :: xs => ofToml x :: ofTomlItems xs

def ofTomlEntries : List (String × Toml.Value) → List (String × Layer)
  | [] => []
  | (k, x) :: es => (k, ofToml x) :: ofTomlEntries es

end

end Layer

end WorkDispatch.Settings
