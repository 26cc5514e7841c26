import WorkDispatch.Bits
import WorkDispatch.Settings.Document
import WorkDispatch.Settings.Layer
import WorkDispatch.Text.Decimal

/-!
Scalars of one kind taken for another: what the text of a variable is stored as, and what a value of
a layer is as a text, a truth value or a number. `lenient` reads settings with these rules.
-/

set_option autoImplicit false

namespace WorkDispatch.Settings

open Text

namespace Layer

/-! ## Texts as values -/

/-- A whole number with a sign or without, within bounds. -/
def intOfText? (lo hi : Int) (s : String) : Option Int :=
  let (negative, ds) := match s.toList with
    | '-' :: ds => (true, ds)
    | '+' :: ds => (false, ds)
    | ds => (false, ds)
  let n : Int := if negative then -(ofDigits ds : Int) else ofDigits ds
  if ds ≠ [] ∧ ds.all Char.isDigit ∧ lo ≤ n ∧ n ≤ hi then some n else none

/-- A number in positional or scientific notation, or the name of one that has no digits. -/
def floatOfText? (s : String) : Option Float :=
  let (negative, cs) := match s.toList with
    | '-' :: cs => (true, cs)
    | '+' :: cs => (false, cs)
    | cs => (false, cs)
  let word := (String.ofList (cs.map Char.toLower))
  if word = "inf" ∨ word = "infinity" then some (if negative then -(1.0 / 0.0) else 1.0 / 0.0)
  else if word = "nan" then some (0.0 / 0.0)
  else
    let whole := cs.takeWhile Char.isDigit
    let rest := cs.drop whole.length
    let (places, rest) := match rest with
      | '.' :: rest => (rest.takeWhile Char.isDigit, rest.dropWhile Char.isDigit)
      | rest => ([], rest)
    if whole ++ places = [] then none
    else
      let number := fun (power : Int) =>
        Binary64.ofDecimal negative (ofDigits (whole ++ places)) (power - places.length)
      match rest with
      | [] => some (number 0)
      | e :: rest =>
        if e = 'e' ∨ e = 'E' then
          let (minus, ds) := match rest with
            | '-' :: ds => (true, ds)
            | '+' :: ds => (false, ds)
            | ds => (false, ds)
          if ds ≠ [] ∧ ds.all Char.isDigit then
            some (number (if minus then -(ofDigits ds : Int) else ofDigits ds))
          else none
        else none

/-- The value that the text of an environment variable is stored as: a truth value, a whole number of
64 bits, a number, or else the text itself. -/
def ofText (s : String) : Layer :=
  if lower s = "true" then bool true
  else if lower s = "false" then bool false
  else match intOfText? (-Bits.count63) (Bits.count63 - 1) s with
    | some n => integer n
    | none => match floatOfText? s with
      | some x => float x
      | none => string s

/-! ## Values as settings -/

/-- A word for a truth value. -/
def truthWord? (s : String) : Option Bool :=
  let s := lower s
  if s = "true" ∨ s = "on" ∨ s = "yes" then some true
  else if s = "false" ∨ s = "off" ∨ s = "no" then some false
  else none

def text? : Layer → Option String
  | string s => some s
  | bool b => some (if b then "true" else "false")
  | integer n => some (toString n)
  | float x => some (Binary64.text x)
  | _ => none

def flag? : Layer → Option Bool
  | bool b => some b
  | integer n => some (n != 0)
  | float x => some (x != 0)
  | string s => if s = "1" then some true else if s = "0" then some false else truthWord? s
  | _ => none

/-- A count of 64 bits; numbers are rounded, and brought into the range. -/
def word? : Layer → Option Nat
  | integer n => if 0 ≤ n then some n.toNat else none
  | bool b => some (if b then 1 else 0)
  | float x => some (Binary64.roundToInt 0 (Bits.count64 - 1) x).toNat
  | string s => match truthWord? s with
    | some b => some (if b then 1 else 0)
    | none => (intOfText? 0 (Bits.count64 - 1) s).bind fun n =>
        if s.toList.head? = some '-' then none else some n.toNat
  | _ => none

def real? : Layer → Option Float
  | float x => some x
  | integer n => some (Binary64.ofDecimal (n < 0) n.natAbs 0)
  | bool b => some (if b then 1 else 0)
  | string s => match truthWord? s with
    | some b => some (if b then 1 else 0)
    | none => floatOfText? s
  | _ => none

/-- The name of a member: a text, or the only key of a table. -/
def name? : Layer → Option String
  | string s => some s
  | table [e] => some e.1
  | _ => none

/-- A capability by its name, whatever the case. -/
def capability? (v : Layer) : Option Capability :=
  (name? v).bind fun s => Named.all.find? fun a => lower (Named.name a) == lower s

def labels? : Layer → Option Labels
  | table es => (es.mapM fun e => (text? e.2).map fun v => (e.1, v)).map Labels.ofList
  | _ => none

/-- Layers, in which scalars are taken for one another. -/
def lenient : Access Layer where
  record? names v := match v with
    | table es => some fun name => es.lookup name
    | array xs => some fun name => (names.zip xs).lookup name
    | _ => none
  text? := text?
  flag? := flag?
  count? bits v := (word? v).filter (· < Bits.count bits)
  real? := real?
  list? v := match v with
    | array xs => some xs
    | _ => none
  capability? := capability?
  labels? := labels?
  isNull v := match v with
    | null => true
    | _ => false

end Layer

end WorkDispatch.Settings
