import WorkDispatch.Binary64
import WorkDispatch.Bits
import WorkDispatch.Json.Scanner
import WorkDispatch.Time.Calendar
import WorkDispatch.Toml.Value

/-!
The scalars of TOML: strings in four kinds of quotes, whole numbers in four bases, floating-point
numbers, and dates. Every reader takes what it reads from the front of a text.
-/

set_option autoImplicit false

namespace WorkDispatch.Toml

open Text

/-- A control character that neither strings nor comments may hold. -/
def isControl (c : Char) : Bool := (c.toNat < 0x20 && c != '\t') || c.toNat = 0x7F

def isWhite (c : Char) : Bool := c == ' ' || c == '\t'

/-- A line end at the front. -/
def lineEnd? : List Char → Option (List Char)
  | '\n' :: rest => some rest
  | '\r' :: '\n' :: rest => some rest
  | _ => none

/-! ## Strings -/

def hexValue? (c : Char) : Option Nat :=
  if c.toNat < 0x80 then Json.hexValue? (UInt8.ofNat c.toNat) else none

/-- The character that hexadecimal digits number. -/
def ofHex? (digits : List Char) : Option Char := do
  let ns ← digits.mapM hexValue?
  let n := ns.foldl (fun n d => n * 16 + d) 0
  if n < 0xD800 ∨ (0xDFFF < n ∧ n < 0x110000) then some (Char.ofNat n) else none

/-- What stands after a backslash. -/
def escape? : List Char → Option (Char × List Char)
  | 'b' :: r => some ('\x08', r)
  | 't' :: r => some ('\t', r)
  | 'n' :: r => some ('\n', r)
  | 'f' :: r => some ('\x0C', r)
  | 'r' :: r => some ('\r', r)
  | '"' :: r => some ('"', r)
  | '\\' :: r => some ('\\', r)
  | 'u' :: r => if r.length < 4 then none else (ofHex? (r.take 4)).map fun c => (c, r.drop 4)
  | 'U' :: r => if r.length < 8 then none else (ofHex? (r.take 8)).map fun c => (c, r.drop 8)
  | _ => none

/-- A string on one line, up to its closing quote. -/
def basic? : Nat → List Char → Option ((List Char) × List Char)
  | 0, _ => none
  | _ + 1, '"' :: rest => some ([], rest)
  | fuel + 1, '\\' :: rest => do
    let (c, rest) ← escape? rest
    let (cs, rest) ← basic? fuel rest
    some (c :: cs, rest)
  | fuel + 1, c :: rest =>
    if isControl c then none
    else (basic? fuel rest).map fun (cs, r) => (c :: cs, r)
  | _, [] => none

/-- A string on one line in which nothing is escaped. -/
def literal? : List Char → Option ((List Char) × List Char)
  | '\'' :: rest => some ([], rest)
  | c :: rest => if isControl c then none else (literal? rest).map fun (cs, r) => (c :: cs, r)
  | [] => none

/-- The quotes at the end of a string over several lines: three close it, and one or two before them
belong to it. -/
def closing? (quote : Char) (cs : List Char) : Option ((List Char) × List Char) :=
  let n := (cs.takeWhile (· == quote)).length
  if n < 3 then none
  else
    let own := min (n - 3) 2
    some (List.replicate own quote, cs.drop (own + 3))

/-- Passes over the blanks and line ends after a backslash that ends a line. -/
def joinLines : List Char → List Char
  | '\r' :: '\n' :: rest => joinLines rest
  | c :: rest => if isWhite c || c == '\n' then joinLines rest else c :: rest
  | [] => []

/-- Whether only blanks stand before the end of the line. -/
def endsLine (cs : List Char) : Bool := (lineEnd? (cs.dropWhile isWhite)).isSome

/-- A string over several lines, up to its closing quotes. -/
def multiline? (quote : Char) : Nat → List Char → Option ((List Char) × List Char)
  | 0, _ => none
  | fuel + 1, cs =>
    match closing? quote cs with
    | some r => some r
    | none =>
      match lineEnd? cs with
      | some rest => (multiline? quote fuel rest).map fun (cs, r) => ('\n' :: cs, r)
      | none =>
        match cs with
        | '\\' :: rest =>
          if quote = '"' then
            if endsLine rest then multiline? quote fuel (joinLines rest)
            else do
              let (c, rest) ← escape? rest
              let (cs, rest) ← multiline? quote fuel rest
              some (c :: cs, rest)
          else (multiline? quote fuel rest).map fun (cs, r) => ('\\' :: cs, r)
        | c :: rest =>
          if isControl c then none
          else (multiline? quote fuel rest).map fun (cs, r) => (c :: cs, r)
        | [] => none

/-- A line end right after the opening quotes does not count. -/
def afterOpening (cs : List Char) : List Char := (lineEnd? cs).getD cs

/-- A string in any kind of quotes. -/
def string? (cs : List Char) : Option (String × List Char) :=
  let text := fun (r : List Char × List Char) => (String.ofList r.1, r.2)
  match cs with
  | '"' :: '"' :: '"' :: rest => (multiline? '"' (rest.length + 1) (afterOpening rest)).map text
  | '\'' :: '\'' :: '\'' :: rest => (multiline? '\'' (rest.length + 1) (afterOpening rest)).map text
  | '"' :: rest => (basic? (rest.length + 1) rest).map text
  | '\'' :: rest => (literal? rest).map text
  | _ => none

/-! ## Numbers -/

/-- Digits with single underscores between them, without the underscores. -/
def digitsOf? (isDigit : Char → Bool) : List Char → Option (List Char)
  | [] => none
  | [c] => if isDigit c then some [c] else none
  | c :: '_' :: rest => if isDigit c then (digitsOf? isDigit rest).map (c :: ·) else none
  | c :: rest => if isDigit c then (digitsOf? isDigit rest).map (c :: ·) else none

def isHexDigit (c : Char) : Bool := (hexValue? c).isSome
def isOctalDigit (c : Char) : Bool := '0' ≤ c && c ≤ '7'
def isBinaryDigit (c : Char) : Bool := c == '0' || c == '1'

/-- The value of digits in a base. -/
def inBase (base : Nat) (cs : List Char) : Nat :=
  cs.foldl (fun n c => n * base + (hexValue? c).getD 0) 0

/-- Takes a sign off. -/
def sign (cs : List Char) : Bool × List Char :=
  match cs with
  | '-' :: rest => (true, rest)
  | '+' :: rest => (false, rest)
  | _ => (false, cs)

/-- A whole number of 64 bits with its sign. -/
def word? (n : Int) : Option Value :=
  if -Bits.count63 ≤ n ∧ n < Bits.count63 then some (.integer n) else none

/-- Digits of a number without a base: no zero before others. -/
def decimalDigits? (cs : List Char) : Option (List Char) := do
  let ds ← digitsOf? Char.isDigit cs
  if ds.head? = some '0' ∧ ds.length ≠ 1 then none else some ds

/-- A number whose text stands alone. -/
def number? (cs : List Char) : Option Value :=
  match cs with
  | '0' :: 'x' :: rest => (digitsOf? isHexDigit rest).bind fun ds => word? (inBase 16 ds)
  | '0' :: 'o' :: rest => (digitsOf? isOctalDigit rest).bind fun ds => word? (inBase 8 ds)
  | '0' :: 'b' :: rest => (digitsOf? isBinaryDigit rest).bind fun ds => word? (inBase 2 ds)
  | _ =>
    let (negative, cs) := sign cs
    if cs = ['i', 'n', 'f'] then some (.float (if negative then -(1.0 / 0.0) else 1.0 / 0.0))
    else if cs = ['n', 'a', 'n'] then some (.float (0.0 / 0.0))
    else
      let isMark := fun c => c == '.' || c == 'e' || c == 'E'
      let whole := cs.takeWhile (!isMark ·)
      let rest := cs.drop whole.length
      if rest = [] then do
        let ds ← decimalDigits? whole
        word? (if negative then -(ofDigits ds : Int) else ofDigits ds)
      else do
        let ds ← decimalDigits? whole
        let (places, rest) ← match rest with
          | '.' :: rest =>
            let places := rest.takeWhile fun c => c != 'e' && c != 'E'
            (digitsOf? Char.isDigit places).map fun ps => (ps, rest.drop places.length)
          | _ => some ([], rest)
        let power ← match rest with
          | [] => some (0 : Int)
          | _ :: rest =>
            let (minus, rest) := sign rest
            (digitsOf? Char.isDigit rest).map fun ds =>
              if minus then -(ofDigits ds : Int) else (ofDigits ds : Int)
        let x := Binary64.ofDecimal negative (ofDigits (ds ++ places)) (power - places.length)
        if x == 1.0 / 0.0 then none else some (.float x)

/-! ## Dates -/

/-- A number of so many digits within bounds. -/
def fixed? (width lo hi : Nat) (cs : List Char) : Option (Nat × List Char) :=
  let ds := cs.take width
  let n := ofDigits ds
  if ds.length = width ∧ ds.all Char.isDigit ∧ lo ≤ n ∧ n ≤ hi then some (n, cs.drop width) else none

def expect? (c : Char) : List Char → Option (List Char)
  | d :: rest => if d = c then some rest else none
  | [] => none

/-- A day of the calendar. -/
def date? (cs : List Char) : Option (String × List Char) := do
  let (year, cs) ← fixed? 4 0 9999 cs
  let cs ← expect? '-' cs
  let (month, cs) ← fixed? 2 1 12 cs
  let cs ← expect? '-' cs
  let (day, cs) ← fixed? 2 1 31 cs
  if Date.exists? ⟨year, month, day⟩ then
    some (padded 4 year ++ "-" ++ padded 2 month ++ "-" ++ padded 2 day, cs)
  else none

/-- A time of the day, the second of which may be 60. -/
def time? (lastHour : Nat) (cs : List Char) : Option (String × List Char) := do
  let (hour, cs) ← fixed? 2 0 lastHour cs
  let cs ← expect? ':' cs
  let (minute, cs) ← fixed? 2 0 59 cs
  let cs ← expect? ':' cs
  let (second, cs) ← fixed? 2 0 60 cs
  let text := padded 2 hour ++ ":" ++ padded 2 minute ++ ":" ++ padded 2 second
  match cs with
  | '.' :: rest =>
    let run := rest.takeWhile Char.isDigit
    if run = [] then none
    else
      let places := Span.places 9 (ofDigits ((run ++ List.replicate 9 '0').take 9))
      some (if places = "" then text else text ++ "." ++ places, rest.drop run.length)
  | _ => some (text, cs)

/-- `Z` or a signed offset of a day at most, when there is one. An offset of nothing is positive. -/
def zone? (lastHour lastMinute : Nat) (cs : List Char) : Option (String × List Char) :=
  match cs with
  | 'Z' :: rest => some ("Z", rest)
  | 'z' :: rest => some ("Z", rest)
  | c :: rest =>
    if c = '+' ∨ c = '-' then do
      let (hour, rest) ← fixed? 2 0 lastHour rest
      let rest ← expect? ':' rest
      let (minute, rest) ← fixed? 2 0 lastMinute rest
      let minutes := hour * 60 + minute
      let mark := if c = '-' ∧ minutes ≠ 0 then "-" else "+"
      if minutes ≤ 1440 then
        some (mark ++ padded 2 (minutes / 60) ++ ":" ++ padded 2 (minutes % 60), rest)
      else none
    else some ("", cs)
  | [] => some ("", [])

/-- A day, a time of the day, or both with an offset or without. -/
def moment? (cs : List Char) : Option (String × List Char) :=
  match date? cs with
  | none => time? 23 cs
  | some (day, rest) =>
    match rest with
    | c :: after =>
      if c = 'T' ∨ c = 't' ∨ (c = ' ' ∧ (time? 23 after).isSome) then do
        let (time, rest) ← time? 23 after
        let (zone, rest) ← zone? 23 59 rest
        some (day ++ "T" ++ time ++ zone, rest)
      else some (day, rest)
    | [] => some (day, rest)

/-- The date that a text is, in its usual form. Here the hour may be 24, and an offset may have more
minutes than an hour. -/
def dateOfText? (s : String) : Option String := do
  let (text, rest) ←
    if s.toList[2]? = some ':' then time? 24 s.toList
    else do
      let (day, rest) ← date? s.toList
      match rest with
      | [] => some (day, [])
      | c :: rest =>
        if c = 'T' ∨ c = 't' ∨ c = ' ' then do
          let (time, rest) ← time? 24 rest
          let (zone, rest) ← zone? 99 99 rest
          some (day ++ "T" ++ time ++ zone, rest)
        else none
  if rest = [] then some text else none

/-- The characters that a number or a word may be made of. -/
def isWordChar (c : Char) : Bool := c.isAlphanum || c == '_' || c == '+' || c == '-' || c == '.'

/-- A scalar other than a string. -/
def bare? (cs : List Char) : Option (Value × List Char) :=
  match moment? cs with
  | some (text, rest) => some (.date text, rest)
  | none =>
    let word := cs.takeWhile isWordChar
    let rest := cs.drop word.length
    if word = ['t', 'r', 'u', 'e'] then some (.bool true, rest)
    else if word = ['f', 'a', 'l', 's', 'e'] then some (.bool false, rest)
    else (number? word).map fun v => (v, rest)

end WorkDispatch.Toml
