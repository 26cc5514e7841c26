/-!
The addresses that a connection can be dialed at. An address is a scheme, an authority and a path, or
an authority or a path alone. Whether anyone answers there is another question.
-/

set_option autoImplicit false

namespace WorkDispatch.Connection.Endpoint

/-- The most bytes that an address has. -/
def maxBytes : Nat := 65534

/-- The most characters that a scheme has. -/
def maxScheme : Nat := 64

def isSchemeChar (c : Char) : Bool := c.isAlphanum || "+-.~".toList.contains c

/-- What follows the scheme of an address: `none` when it has none, and `some none` when that is too
long. -/
def afterScheme (cs : List Char) : Option (Option (List Char)) :=
  match cs.dropWhile isSchemeChar with
  | ':' :: '/' :: '/' :: rest =>
    some (if (cs.takeWhile isSchemeChar).length ≤ maxScheme then some rest else none)
  | _ => none

/-! ## Authorities -/

/-- What was seen of an authority so far, since its user ended. -/
structure Seen where
  colons : Nat
  opened : Bool
  closed : Bool
  percent : Bool
  /-- Whether the user ended with the last character. -/
  bare : Bool

/-- Characters that stand in an authority for themselves. -/
def isPlain (c : Char) : Bool := c.isAlphanum || "!$&'()*+,-.;=_~".toList.contains c

/-- Whether an authority may end: every bracket is closed, and one colon at most is before a port. -/
def Seen.mayEnd (s : Seen) : Bool :=
  s.opened == s.closed && s.colons ≤ 1 && !s.bare && !s.percent

/-- What follows the authority at the start of a text, when there can be one. -/
def authorityFrom : Seen → List Char → Option (List Char)
  | s, [] => if s.mayEnd then some [] else none
  | s, c :: cs =>
    let seen := { s with bare := false }
    if c = '/' ∨ c = '?' ∨ c = '#' then if s.mayEnd then some (c :: cs) else none
    else if c = ':' then
      if 8 ≤ s.colons then none else authorityFrom { seen with colons := s.colons + 1 } cs
    else if c = '[' then
      if s.percent ∨ s.opened then none else authorityFrom { seen with opened := true } cs
    else if c = ']' then
      if !s.opened ∨ s.closed then none
      else authorityFrom { seen with closed := true, colons := 0, percent := false } cs
    else if c = '@' then authorityFrom { s with colons := 0, percent := false, bare := true } cs
    else if c = '%' then authorityFrom { seen with percent := true } cs
    else if isPlain c then authorityFrom seen cs
    else none

def afterAuthority : List Char → Option (List Char) := authorityFrom ⟨0, false, false, false, false⟩

/-! ## Paths -/

def isQueryChar (c : Char) : Bool :=
  c = '!' || c = '=' || ('$' ≤ c && c ≤ ';') || ('?' ≤ c && c.toNat != 0x7F)

def isPathChar (c : Char) : Bool :=
  c = '"' || isQueryChar c && c != '?' && c != Char.ofNat 0x60

/-- Whether a text is a query; what follows a number sign is not looked at. -/
def isQuery : List Char → Bool
  | [] => true
  | '#' :: _ => true
  | c :: cs => isQueryChar c && isQuery cs

/-- Whether a text is a path, and a query if there is one. -/
def isPath : List Char → Bool
  | [] => true
  | '#' :: _ => true
  | '?' :: cs => isQuery cs
  | c :: cs => isPathChar c && isPath cs

/-- Whether a text is an address. -/
def isAddress (s : String) : Bool :=
  s.utf8ByteSize ≤ maxBytes &&
    match s.toList with
    | [] => false
    | ['*'] => true
    | '/' :: cs => isPath ('/' :: cs)
    | cs =>
      match afterScheme cs with
      | some none => false
      | some (some rest) =>
        match afterAuthority rest with
        | some path => path.length < rest.length && isPath path
        | none => false
      | none => afterAuthority cs == some []

end WorkDispatch.Connection.Endpoint
