import WorkDispatch.Bits
import WorkDispatch.Settings.Layer
import WorkDispatch.Text.Decimal
import WorkDispatch.Toml.Scalar

/-!
The keys of a layer and what they lead to. A key is a word, or a path of words and of places in lists,
and laying a value at a path makes what is missing on the way.
-/

set_option autoImplicit false

namespace WorkDispatch.Settings

open Text

namespace Layer

/-- A step into a value: by a key into a table, or to a place in a list, counted from its end when it
is negative. -/
inductive Step where
  | key (word : String)
  | place (n : Int)

/-- More items than any list can hold. -/
def tooMany : Nat := Bits.count32

/-- Changes an item of a list, which is made as long as that takes. There is no place before the first
item. -/
def alterPlace (n : Int) (f : Layer → Option Layer) (items : List Layer) : Option (List Layer) :=
  let place := if n < 0 then n + items.length else n
  if place < 0 ∨ tooMany ≤ place.toNat then none
  else do
    let items := items ++ List.replicate (place.toNat + 1 - items.length) null
    some (items.set place.toNat (← f (items[place.toNat]?.getD null)))

/-- The items of a list, and none of anything else. -/
def items : Layer → List Layer
  | array xs => xs
  | _ => []

/-- Lays a value over what some steps lead to, where what is no table or no list gives way to one that
has the key or the place. At a place in a list nothing of what was there is kept. -/
def layAt : List Step → Layer → Layer → Option Layer
  | [], v, _ => some v
  | [.key k], v, was => some (table (alter k (fun w => lay w v) was.entries))
  | .key k :: steps, v, was => do
    let inner ← layAt steps v ((was.entries.lookup k).getD null)
    some (table (alter k (fun _ => inner) was.entries))
  | .place n :: steps, v, was => (alterPlace n (layAt steps v) was.items).map array

def isKeyChar (c : Char) : Bool := c.isAlphanum || c == '_' || c == '-' || c == ' '

/-- A word of a key. -/
def keyWord? (cs : List Char) : Option (Step × List Char) :=
  let word := cs.takeWhile isKeyChar
  if word = [] then none else some (.key (lower (String.ofList word)), cs.drop word.length)

/-- The number of a place, with blanks around it, up to its bracket. -/
def keyPlace? (cs : List Char) : Option (Step × List Char) :=
  let cs := cs.dropWhile Toml.isWhite
  let (negative, cs) := match cs with
    | '-' :: cs => (true, cs)
    | cs => (false, cs)
  let ds := cs.takeWhile Char.isDigit
  let n : Int := if negative then -(ofDigits ds : Int) else ofDigits ds
  match (cs.drop ds.length).dropWhile Toml.isWhite with
  | ']' :: rest =>
    if ds ≠ [] ∧ -Bits.count63 ≤ n ∧ n < Bits.count63 then some (.place n, rest) else none
  | _ => none

/-- The steps that follow a word of a key; the first argument bounds their number. -/
def keySteps? : Nat → List Char → Option (List Step)
  | _, [] => some []
  | fuel + 1, '.' :: cs => do
    let (step, rest) ← keyWord? cs
    some (step :: (← keySteps? fuel rest))
  | fuel + 1, '[' :: cs => do
    let (step, rest) ← keyPlace? cs
    some (step :: (← keySteps? fuel rest))
  | _, _ => none

/-- The steps that a key names: a word, and further words after points and places in brackets. A key
that is not made so names itself. -/
def path (key : String) : List Step :=
  let steps := do
    let (step, rest) ← keyWord? key.toList
    some (step :: (← keySteps? rest.length rest))
  steps.getD [.key (lower key)]

/-- Lays entries over a layer, each at the path that its key names. -/
def layPaths (base : Layer) (es : List (String × Layer)) : Option Layer :=
  es.foldlM (fun was e => layAt (path e.1) e.2 was) base

end Layer

end WorkDispatch.Settings
