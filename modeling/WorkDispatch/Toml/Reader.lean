import WorkDispatch.Toml.Scalar

/-!
Reading TOML files. A table may be opened once by its header, also when an earlier header implied it;
dotted keys add to tables that dotted keys made, and pass through any that no header opened; an inline
table never grows. `Section` keeps how a table came to be, and `read?` forgets it.
-/

set_option autoImplicit false

namespace WorkDispatch.Toml

/-- How a table came to be. -/
inductive Origin
  /-- On the way to a table that a header opened. -/
  | implied
  | header
  /-- On the way of a dotted key. -/
  | dotted
  deriving DecidableEq

/-- A file being read: values, tables that may still grow, and lists of tables of which the last may. -/
inductive Section where
  | leaf (v : Value)
  | table (origin : Origin) (entries : List (String × Section))
  | tables (elements : List (List (String × Section)))

instance : Inhabited Section := ⟨.leaf default⟩

/-- The entries of a table being read. -/
abbrev Entries := List (String × Section)

/-- The entries with one put under a key, in place of what was there. -/
def Entries.put (key : String) (s : Section) : Entries → Entries
  | [] => [(key, s)]
  | e :: es => if e.1 = key then (key, s) :: es else e :: Entries.put key s es

/-- Changes the table that a path leads to, where tables on the way are made as needed; the change is
told how the table came to be. Headers enter any table and the last of a list of tables, and dotted
keys any but those that a header opened. -/
def within (dotted : Bool) (path : List String) (f : Origin → Entries → Option Entries)
    (origin : Origin) (es : Entries) : Option Entries :=
  match path with
  | [] => f origin es
  | key :: path =>
    match es.lookup key with
    | none => do
      let made := if dotted then .dotted else .implied
      some (es ++ [(key, .table made (← within dotted path f made []))])
    | some (.table origin inner) =>
      if dotted ∧ origin = .header then none
      else (within dotted path f origin inner).map fun inner =>
        Entries.put key (.table origin inner) es
    | some (.tables elements) =>
      match elements.reverse with
      | [] => none
      | last :: before => (within dotted path f .header last).map fun last =>
        Entries.put key (.tables (before.reverse ++ [last])) es
    | some (.leaf _) => none

/-- Puts a value under a dotted key. The table that it comes into is the one that is open, or one that
dotted keys made. -/
def assign (path : List String) (v : Value) (origin : Origin) (es : Entries) : Option Entries :=
  match path.reverse with
  | [] => none
  | key :: before =>
    within true before.reverse (fun origin es =>
      if before ≠ [] ∧ origin ≠ .dotted then none
      else match es.lookup key with
        | none => some (es ++ [(key, .leaf v)])
        | some _ => none) origin es

/-- Opens the table of a header, with what was already implied of it; it then comes last. -/
def openTable (path : List String) (es : Entries) : Option Entries :=
  match path.reverse with
  | [] => none
  | key :: before =>
    within false before.reverse (fun _ es => match es.lookup key with
      | none => some (es ++ [(key, .table .header [])])
      | some (.table .implied inner) =>
        some (es.filter (fun e => e.1 != key) ++ [(key, .table .header inner)])
      | some _ => none) .header es

/-- Opens a further table of a list. -/
def openElement (path : List String) (es : Entries) : Option Entries :=
  match path.reverse with
  | [] => none
  | key :: before =>
    within false before.reverse (fun _ es => match es.lookup key with
      | none => some (es ++ [(key, .tables [[]])])
      | some (.tables elements) => some (Entries.put key (.tables (elements ++ [[]])) es)
      | some _ => none) .header es

mutual

/-- The value that a part of a file stands for. -/
def Section.value : Section → Value
  | .leaf v => v
  | .table _ es => .table (entryValues es)
  | .tables ts => .array (tableValues ts)

def entryValues : List (String × Section) → List (String × Value)
  | [] => []
  | (k, s) :: es => (k, s.value) :: entryValues es

def tableValues : List (List (String × Section)) → List Value
  | [] => []
  | t :: ts => .table (entryValues t) :: tableValues ts

end

/-! ## Blanks, comments and keys -/

def skipWhite (cs : List Char) : List Char := cs.dropWhile isWhite

/-- Passes over a comment, which holds no control characters. -/
def comment? : List Char → Option (List Char)
  | '#' :: rest =>
    let line := rest.takeWhile fun c => c != '\n' && c != '\r'
    if line.any isControl then none else some (rest.drop line.length)
  | cs => some cs

/-- Passes over blanks, comments and line ends. -/
def skipLines? : Nat → List Char → Option (List Char)
  | 0, cs => some cs
  | fuel + 1, cs => do
    let cs ← comment? (skipWhite cs)
    match lineEnd? cs with
    | some rest => skipLines? fuel rest
    | none => some cs

/-- Passes over the rest of a line, on which nothing more may stand. -/
def finishLine? (cs : List Char) : Option (List Char) := do
  let cs ← comment? (skipWhite cs)
  match cs with
  | [] => some []
  | _ => lineEnd? cs

def isBareKeyChar (c : Char) : Bool := c.isAlphanum || c == '_' || c == '-'

/-- One part of a key. -/
def keyPart? (cs : List Char) : Option (String × List Char) :=
  match cs with
  | '"' :: rest => (basic? (rest.length + 1) rest).map fun (k, r) => (String.ofList k, r)
  | '\'' :: rest => (literal? rest).map fun (k, r) => (String.ofList k, r)
  | _ =>
    let bare := cs.takeWhile isBareKeyChar
    if bare = [] then none else some (String.ofList bare, cs.drop bare.length)

/-- Neither keys nor values go this deep. -/
def depthLimit : Nat := 80

/-- The parts of a dotted key, with blanks around them. -/
def keyParts? : Nat → List Char → Option ((List String) × List Char)
  | 0, _ => none
  | fuel + 1, cs => do
    let (part, rest) ← keyPart? (skipWhite cs)
    match skipWhite rest with
    | '.' :: rest => (keyParts? fuel rest).map fun (ps, r) => (part :: ps, r)
    | rest => some ([part], rest)

/-- A dotted key. -/
def key? (cs : List Char) : Option ((List String) × List Char) := do
  let (path, rest) ← keyParts? (cs.length + 1) cs
  if path.length < depthLimit then some (path, rest) else none

/-! ## Values -/

mutual

/-- A value; the first argument bounds the values that are read, and the second is how many arrays and
inline tables they may still lie in. -/
def value? : Nat → Nat → List Char → Option (Value × List Char)
  | 0, _, _ => none
  | fuel + 1, depth, cs =>
    match cs with
    | '"' :: _ => (string? cs).map fun (s, r) => (.string s, r)
    | '\'' :: _ => (string? cs).map fun (s, r) => (.string s, r)
    | '[' :: rest =>
      if depth = 0 then none else (items? fuel (depth - 1) rest).map fun (xs, r) => (.array xs, r)
    | '\x7b' :: rest =>
      if depth = 0 then none
      else match skipWhite rest with
        | '\x7d' :: rest => some (.table [], rest)
        | rest => (pairs? fuel (depth - 1) [] rest).map fun (es, r) => (.table (entryValues es), r)
    | _ => bare? cs

/-- The items of an array, up to its bracket; lines may end anywhere between them. -/
def items? : Nat → Nat → List Char → Option ((List Value) × List Char)
  | 0, _, _ => none
  | fuel + 1, depth, cs => do
    match ← skipLines? (cs.length + 1) cs with
    | ']' :: rest => some ([], rest)
    | cs => do
      let (v, rest) ← value? fuel depth cs
      match ← skipLines? (rest.length + 1) rest with
      | ',' :: rest => (items? fuel depth rest).map fun (vs, r) => (v :: vs, r)
      | ']' :: rest => some ([v], rest)
      | _ => none

/-- The pairs of an inline table, after those already read, up to its brace. -/
def pairs? : Nat → Nat → Entries → List Char → Option (Entries × List Char)
  | 0, _, _, _ => none
  | fuel + 1, depth, es, cs => do
    let (path, rest) ← key? cs
    match rest with
    | '=' :: rest => do
      let (v, rest) ← value? fuel depth (skipWhite rest)
      let es ← assign path v .header es
      match skipWhite rest with
      | ',' :: rest => pairs? fuel depth es rest
      | '\x7d' :: rest => some (es, rest)
      | _ => none
    | _ => none

end

/-! ## Dates in tables -/

/-- The key that marks a table as a date when it comes first; the date is the text under it. -/
def dateKey : String := "$__toml_private_datetime"

mutual

/-- A value in which tables that stand for dates have become dates. -/
def settle? : Value → Option Value
  | .array xs => (settleItems? xs).map .array
  | .table es =>
    match es with
    | [] => some (.table [])
    | (key, v) :: es =>
      if key = dateKey then
        match v with
        | .string s => (dateOfText? s).map .date
        | _ => none
      else do
        let v ← settle? v
        some (.table ((key, v) :: (← settleEntries? es)))
  | v => some v

def settleItems? : List Value → Option (List Value)
  | [] => some []
  | x :: xs => do some ((← settle? x) :: (← settleItems? xs))

def settleEntries? : List (String × Value) → Option (List (String × Value))
  | [] => some []
  | (key, v) :: es => do some ((key, ← settle? v) :: (← settleEntries? es))

end

/-! ## Files -/

/-- A header in one or two brackets, and whether it was in two. -/
def header? (cs : List Char) : Option ((List String × Bool) × List Char) :=
  match cs with
  | '[' :: '[' :: rest => do
    let (path, rest) ← key? rest
    match rest with
    | ']' :: ']' :: rest => some ((path, true), rest)
    | _ => none
  | '[' :: rest => do
    let (path, rest) ← key? rest
    match rest with
    | ']' :: rest => some ((path, false), rest)
    | _ => none
  | _ => none

/-- The lines of a file from one on, in the table that a path leads to. -/
def lines? : Nat → List String → Entries → List Char → Option Entries
  | 0, _, _, _ => none
  | fuel + 1, current, es, cs => do
    match ← skipLines? (cs.length + 1) cs with
    | [] => some es
    | cs =>
      match cs with
      | '[' :: _ => do
        let ((path, list), rest) ← header? cs
        let es ← if list then openElement path es else openTable path es
        lines? fuel path es (← finishLine? rest)
      | _ => do
        let (path, rest) ← key? cs
        match rest with
        | '=' :: rest => do
          let (v, rest) ← value? (2 * rest.length + 2) (depthLimit - 1) (skipWhite rest)
          let es ← within false current (assign path v) .header es
          lines? fuel current es (← finishLine? rest)
        | _ => none

/-- The entries of a file, which may begin with a byte order mark. -/
def read? (text : String) : Option (List (String × Value)) := do
  let cs := match text.toList with
    | '\uFEFF' :: cs => cs
    | cs => cs
  match ← settle? (.table (entryValues (← lines? (cs.length + 1) [] [] cs))) with
  | .table es => some es
  | _ => none

end WorkDispatch.Toml
