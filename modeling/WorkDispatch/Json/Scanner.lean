import WorkDispatch.Json.Tree

/-!
Reading JSON from bytes, in two passes. `scan?` finds the structure and leaves every string as it is
written between its quotes; `unescape?` then reads a string where it is wanted. So a string that no
one reads needs no well-formed text in it, only a closing quote.
-/

set_option autoImplicit false

namespace WorkDispatch.Json

/-- The bytes of an ASCII text, for comparing with what is read. -/
def ascii (s : String) : Bytes := s.toList.map fun c => UInt8.ofNat c.toNat

def isSpace (b : UInt8) : Bool := b == 0x20 || b == 0x09 || b == 0x0A || b == 0x0D

def skipSpace (bs : Bytes) : Bytes := bs.dropWhile isSpace

def isDigit (b : UInt8) : Bool := 0x30 ≤ b && b ≤ 0x39

/-- The value of a hexadecimal digit. -/
def hexValue? (b : UInt8) : Option Nat :=
  if 0x30 ≤ b ∧ b ≤ 0x39 then some (b.toNat - 0x30)
  else if 0x61 ≤ b ∧ b ≤ 0x66 then some (b.toNat - 0x61 + 10)
  else if 0x41 ≤ b ∧ b ≤ 0x46 then some (b.toNat - 0x41 + 10)
  else none

/-- The number that four hexadecimal digits spell. -/
def hex4? (a b c d : UInt8) : Option Nat := do
  some ((((← hexValue? a) * 16 + (← hexValue? b)) * 16 + (← hexValue? c)) * 16 + (← hexValue? d))

/-! ## Strings -/

/-- What a letter after a backslash stands for. -/
def escapes : List (UInt8 × UInt8) :=
  [(0x22, 0x22), (0x5C, 0x5C), (0x2F, 0x2F), (0x62, 0x08), (0x66, 0x0C), (0x6E, 0x0A), (0x72, 0x0D),
   (0x74, 0x09)]

/-- The bytes up to the closing quote, as they are written, and the rest. A control byte ends the
text before its time, and so does a backslash before anything that is no escape. -/
def scanString : Bytes → Option (Bytes × Bytes)
  | [] => none
  | 0x22 :: rest => some ([], rest)
  | 0x5C :: 0x75 :: a :: b :: c :: d :: rest => do
    let _ ← hex4? a b c d
    let (raw, rest) ← scanString rest
    some (0x5C :: 0x75 :: a :: b :: c :: d :: raw, rest)
  | 0x5C :: e :: rest => do
    let _ ← escapes.lookup e
    let (raw, rest) ← scanString rest
    some (0x5C :: e :: raw, rest)
  | b :: rest =>
    if b < 0x20 ∨ b = 0x5C then none
    else do
      let (raw, rest) ← scanString rest
      some (b :: raw, rest)

/-- The encoding of a code point that is no surrogate. -/
def utf8OfCodePoint (n : Nat) : Bytes := String.utf8EncodeChar (Char.ofNat n)

/-- The bytes that a written string stands for. Half of a surrogate pair stands for none. -/
def unescape : Bytes → Option Bytes
  | [] => some []
  | 0x5C :: 0x75 :: a :: b :: c :: d :: rest => do
    let n ← hex4? a b c d
    if 0xD800 ≤ n ∧ n < 0xDC00 then
      match rest with
      | 0x5C :: 0x75 :: e :: f :: g :: h :: rest => do
        let m ← hex4? e f g h
        if 0xDC00 ≤ m ∧ m < 0xE000 then
          some (utf8OfCodePoint (0x10000 + (n - 0xD800) * 0x400 + (m - 0xDC00)) ++ (← unescape rest))
        else none
      | _ => none
    else if 0xDC00 ≤ n ∧ n < 0xE000 then none
    else some (utf8OfCodePoint n ++ (← unescape rest))
  | 0x5C :: e :: rest => do some ((← escapes.lookup e) :: (← unescape rest))
  | b :: rest => do some (b :: (← unescape rest))

/-- The text that a written string stands for. -/
def text? (raw : Bytes) : Option String := (unescape raw).bind Text.ofUtf8?

/-! ## Numbers -/

def digitsValue (bs : Bytes) : Nat := bs.foldl (fun n b => n * 10 + (b.toNat - 0x30)) 0

/-- A number: no zero in front of other digits, a digit after the point and in the exponent. -/
def scanNumber (bs : Bytes) : Option (Number × Bytes) :=
  let (negative, bs) := match bs with
    | 0x2D :: rest => (true, rest)
    | _ => (false, bs)
  let whole := bs.takeWhile isDigit
  let bs := bs.dropWhile isDigit
  if whole = [] ∨ (whole.length ≠ 1 ∧ whole.head? = some 0x30) then none
  else
    let (pointed, places, bs) := match bs with
      | 0x2E :: rest => (true, rest.takeWhile isDigit, rest.dropWhile isDigit)
      | _ => (false, [], bs)
    if pointed ∧ places = [] then none
    else
      let digits := digitsValue (whole ++ places)
      let e := bs.head?
      if e = some 0x65 ∨ e = some 0x45 then
        let (minus, bs) := match bs.drop 1 with
          | 0x2B :: rest => (false, rest)
          | 0x2D :: rest => (true, rest)
          | rest => (false, rest)
        let power := bs.takeWhile isDigit
        if power = [] then none
        else
          let n : Int := if minus then -(digitsValue power : Int) else digitsValue power
          some (.decimal negative digits (n - places.length), bs.dropWhile isDigit)
      else if pointed then some (.decimal negative digits (-(places.length : Int)), bs)
      else if negative ∧ digits = 0 then some (.decimal true 0 0, bs)
      else some (.integer (if negative then -(digits : Int) else digits), bs)

/-! ## Documents -/

mutual

/-- A value at the front of the bytes. The first argument bounds the values that are read, each of
which takes a byte at least. -/
def scanValue : Nat → Bytes → Option (Tree Bytes × Bytes)
  | 0, _ => none
  | fuel + 1, bs =>
    match skipSpace bs with
    | 0x7B :: rest =>
      match skipSpace rest with
      | 0x7D :: rest => some (.object [], rest)
      | rest => (scanMembers fuel rest).map fun (ms, r) => (.object ms, r)
    | 0x5B :: rest =>
      match skipSpace rest with
      | 0x5D :: rest => some (.array [], rest)
      | rest => (scanItems fuel rest).map fun (xs, r) => (.array xs, r)
    | 0x22 :: rest => (scanString rest).map fun (s, r) => (.string s, r)
    | 0x74 :: 0x72 :: 0x75 :: 0x65 :: rest => some (.bool true, rest)
    | 0x66 :: 0x61 :: 0x6C :: 0x73 :: 0x65 :: rest => some (.bool false, rest)
    | 0x6E :: 0x75 :: 0x6C :: 0x6C :: rest => some (.null, rest)
    | rest => (scanNumber rest).map fun (n, r) => (.number n, r)

/-- The items of an array, up to its bracket. -/
def scanItems : Nat → Bytes → Option (List (Tree Bytes) × Bytes)
  | 0, _ => none
  | fuel + 1, bs => do
    let (x, rest) ← scanValue fuel bs
    match skipSpace rest with
    | 0x2C :: rest => do
      let (xs, rest) ← scanItems fuel rest
      some (x :: xs, rest)
    | 0x5D :: rest => some ([x], rest)
    | _ => none

/-- The members of an object, up to its brace. -/
def scanMembers : Nat → Bytes → Option (List (Bytes × Tree Bytes) × Bytes)
  | 0, _ => none
  | fuel + 1, bs =>
    match skipSpace bs with
    | 0x22 :: rest => do
      let (key, rest) ← scanString rest
      match skipSpace rest with
      | 0x3A :: rest => do
        let (x, rest) ← scanValue fuel rest
        match skipSpace rest with
        | 0x2C :: rest => do
          let (ms, rest) ← scanMembers fuel rest
          some ((key, x) :: ms, rest)
        | 0x7D :: rest => some ([(key, x)], rest)
        | _ => none
      | _ => none
    | _ => none

end

/-- The document that the bytes hold, blanks around it passed over. -/
def scan? (bs : Bytes) : Option (Tree Bytes) := do
  let (doc, rest) ← scanValue (2 * bs.length + 2) bs
  if skipSpace rest = [] then some doc else none

mutual

/-- Reads all strings of a document. -/
def Tree.read? : Tree Bytes → Option Json
  | .null => some .null
  | .bool b => some (.bool b)
  | .number n => some (.number n)
  | .string raw => (text? raw).map .string
  | .array xs => (readItems? xs).map .array
  | .object ms => (readMembers? ms).map .object

def readItems? : List (Tree Bytes) → Option (List Json)
  | [] => some []
  | x :: xs => do some ((← x.read?) :: (← readItems? xs))

def readMembers? : List (Bytes × Tree Bytes) → Option (List (String × Json))
  | [] => some []
  | (k, x) :: ms => do some (((← text? k), (← x.read?)) :: (← readMembers? ms))

end

/-- The document that the bytes hold, all of its strings read. -/
def read? (bs : Bytes) : Option Json := (scan? bs).bind Tree.read?

end WorkDispatch.Json
