import WorkDispatch.Time.Instant
import WorkDispatch.Text.Blank

/-!
The written forms of a point in time. `Instant.text` is RFC 3339 in UTC with years of more than four
digits signed; `Instant.display` puts a blank and `UTC` instead. `Instant.read?` is wider than
`text`: blanks may stand between the parts, any offset is taken off, and a point may be written with
second 60 in any minute.
-/

set_option autoImplicit false

namespace WorkDispatch

open Text

namespace Date

/-- Four digits, and a sign where the year is not one of 0 to 9999. -/
def yearText (y : Int) : String :=
  if 0 ≤ y ∧ y ≤ 9999 then padded 4 y.toNat
  else (if y < 0 then "-" else "+") ++ padded 4 y.natAbs

def text (d : Date) : String :=
  yearText d.year ++ "-" ++ padded 2 d.month ++ "-" ++ padded 2 d.day

end Date

namespace Instant

/-- The day that a point lies in. -/
def date (i : Instant) : Date := Date.ofDays (i.seconds / 86400)

/-- Hours, minutes and seconds, a leap second being second 60, and three, six or nine places when
the point does not lie on a full second. -/
def clockText (i : Instant) : String :=
  let s := i.secondOfDay.toNat
  let leap := if 1000000000 ≤ i.nanos then 1 else 0
  let n := i.nanos % 1000000000
  let fraction :=
    if n = 0 then ""
    else if n % 1000000 = 0 then "." ++ padded 3 (n / 1000000)
    else if n % 1000 = 0 then "." ++ padded 6 (n / 1000)
    else "." ++ padded 9 n
  padded 2 (s / 3600) ++ ":" ++ padded 2 (s / 60 % 60) ++ ":" ++ padded 2 (s % 60 + leap) ++ fraction

/-- The point in RFC 3339 form, in UTC. -/
def text (i : Instant) : String := i.date.text ++ "T" ++ i.clockText ++ "Z"

/-- The point as messages show it. -/
def display (i : Instant) : String := i.date.text ++ " " ++ i.clockText ++ " UTC"

/-! ## Reading -/

/-- A number of one or two digits, after blanks, within bounds. -/
def twoDigits? (lo hi : Nat) (cs : List Char) : Option (Nat × List Char) := do
  let (n, rest) ← digits? 1 (some 2) (skipBlanks cs)
  if lo ≤ n ∧ n ≤ hi then some (n, rest) else none

/-- A signed year of any length or an unsigned one of up to four digits. -/
def year? (cs : List Char) : Option (Int × List Char) :=
  match skipBlanks cs with
  | '-' :: rest => (digits? 1 none rest).map fun (n, r) => (-(n : Int), r)
  | '+' :: rest => (digits? 1 none rest).map fun (n, r) => ((n : Int), r)
  | rest => (digits? 1 (some 4) rest).map fun (n, r) => ((n : Int), r)

/-- A mark, after blanks. -/
def mark? (c : Char) (cs : List Char) : Option (List Char) :=
  match skipBlanks cs with
  | d :: rest => if d = c then some rest else none
  | [] => none

/-- The nanoseconds after a point: nine places count and those beyond are passed over. -/
def fraction? : List Char → Option (Nat × List Char)
  | '.' :: cs => do
    let (n, _) ← digits? 1 (some 9) cs
    let run := (digitRun cs).1
    some (n * Nat.pow 10 (9 - run.length), cs.drop run.length)
  | cs => some (0, cs)

/-- Hours, blanks or colons, and minutes: the seconds that an offset is worth. -/
def offsetSeconds? : List Char → Option (Nat × List Char)
  | h1 :: h2 :: cs =>
    match cs.dropWhile fun c => c == ':' || isBlank c with
    | m1 :: m2 :: rest =>
      if h1.isDigit ∧ h2.isDigit ∧ m1.isDigit ∧ m2.isDigit ∧ digitValue m1 ≤ 5 then
        some (ofDigits [h1, h2] * 3600 + ofDigits [m1, m2] * 60, rest)
      else none
    | _ => none
  | _ => none

/-- `Z`, `UTC` or a signed offset. -/
def offset? (cs : List Char) : Option (Int × List Char) :=
  let cs := skipBlanks cs
  if (cs.take 3).map Char.toUpper = ['U', 'T', 'C'] then some (0, cs.drop 3)
  else match cs with
    | 'Z' :: rest => some (0, rest)
    | 'z' :: rest => some (0, rest)
    | '+' :: rest => (offsetSeconds? rest).map fun (n, r) => ((n : Int), r)
    | '-' :: rest => (offsetSeconds? rest).map fun (n, r) => (-(n : Int), r)
    | '\u2212' :: rest => (offsetSeconds? rest).map fun (n, r) => (-(n : Int), r)
    | _ => none

/-- The character between date and time. -/
def dateEnd? : List Char → Option (List Char)
  | c :: rest => if c = 'T' ∨ c = 't' ∨ c = ' ' then some rest else none
  | [] => none

/-- Reads a point in time, whole text to the end but for blanks. -/
def readChars? (cs : List Char) : Option Instant := do
  let (year, cs) ← year? cs
  let cs ← mark? '-' cs
  let (month, cs) ← twoDigits? 1 12 cs
  let cs ← mark? '-' cs
  let (day, cs) ← twoDigits? 1 31 cs
  let cs ← dateEnd? cs
  let (hour, cs) ← twoDigits? 0 23 cs
  let cs ← mark? ':' cs
  let (minute, cs) ← twoDigits? 0 59 cs
  let cs ← mark? ':' cs
  let (second, cs) ← twoDigits? 0 60 cs
  let (nanos, cs) ← fraction? cs
  let (offset, cs) ← offset? cs
  let date : Date := ⟨year, month, day⟩
  if skipBlanks cs = [] ∧ date.exists? ∧ offset.natAbs < 86400 ∧
      -262143 ≤ year ∧ year ≤ 262142 then
    let (second, nanos) := if second = 60 then (59, nanos + 1000000000) else (second, nanos)
    ofUnix? (date.toDays * 86400 + (hour * 3600 + minute * 60 + second : Nat) - offset) nanos
  else none

/-- Reads a point in time from text. -/
def read? (s : String) : Option Instant := readChars? s.toList

end Instant

end WorkDispatch
