import WorkDispatch.Text.Decimal

/-!
Socket addresses as they are written: a host, a colon and a port. A host is a number of 32 bits in up
to four parts, a number of 128 bits in groups of hexadecimal digits, or the name that every host gives
itself.
-/

set_option autoImplicit false

namespace WorkDispatch.Coordinator

/-- A host by its number. -/
inductive Station where
  | four (n : Nat)
  | six (n : Nat)
  deriving DecidableEq

/-- An address of a host and a port on it. -/
structure Address where
  station : Station
  port : Nat
  deriving DecidableEq

namespace Address

/-! ## Numbers -/

/-- The value of a digit in a base. -/
def digit? (base : Nat) (c : Char) : Option Nat :=
  let n := if c.isDigit then c.toNat - '0'.toNat
    else if 'a' ≤ c ∧ c ≤ 'f' then c.toNat - 'a'.toNat + 10
    else if 'A' ≤ c ∧ c ≤ 'F' then c.toNat - 'A'.toNat + 10
    else base
  if n < base then some n else none

/-- The number of some digits in a base, of which there is one at least. -/
def inBase? (base : Nat) (cs : List Char) : Option Nat :=
  if cs = [] then none
  else (cs.mapM (digit? base)).map (·.foldl (fun n d => n * base + d) 0)

/-- The number that parts make, each of so many values and the first the most significant. -/
def joined (values : Nat) (parts : List Nat) : Nat := parts.foldl (fun n p => n * values + p) 0

/-- A port, which may have a plus sign and zeros in front. -/
def port? (s : String) : Option Nat :=
  let ds := match s.toList with
    | '+' :: ds => ds
    | ds => ds
  (inBase? 10 ds).filter (· ≤ 65535)

/-! ## Hosts -/

/-- A part of a host of 32 bits: a number in base ten, in base eight behind a zero, or in base sixteen
behind `0x`. -/
def part? (s : String) : Option Nat :=
  match s.toList with
  | '0' :: 'x' :: ds => inBase? 16 ds
  | '0' :: 'X' :: ds => inBase? 16 ds
  | '0' :: d :: ds => inBase? 8 (d :: ds)
  | ds => inBase? 10 ds

/-- A host of 32 bits. All parts but the last have eight bits, and the last has those that remain. -/
def four? (s : String) : Option Nat := do
  let parts ← (s.splitOn ".").mapM part?
  let last ← parts.getLast?
  let bytes := parts.dropLast
  let rest := [4294967296, 16777216, 65536, 256]
  let values ← rest[bytes.length]?
  if bytes.all (· < 256) ∧ last < values then some (joined 256 bytes * values + last) else none

/-- A host of 32 bits in four decimal parts, as it may end a host of 128 bits. -/
def plainFour? (s : String) : Option Nat := do
  let parts ← (s.splitOn ".").mapM fun part =>
    if part.length ≤ 3 ∧ (part.length = 1 ∨ part.toList.head? ≠ some '0') then inBase? 10 part.toList
    else none
  if parts.length = 4 ∧ parts.all (· < 256) then some (joined 256 parts) else none

/-- Groups of 16 bits; the last two may be written as a host of 32 bits. -/
def groups? (mayEnd : Bool) : List String → Option (List Nat)
  | [] => some []
  | [s] =>
    match plainFour? s with
    | some n => if mayEnd then some [n / 65536, n % 65536] else none
    | none => if s.length ≤ 4 then (inBase? 16 s.toList).map ([·]) else none
  | s :: ss => do
    let n ← if s.length ≤ 4 then inBase? 16 s.toList else none
    some (n :: (← groups? mayEnd ss))

/-- The pieces of a text between colons, of which an empty text has none. -/
def pieces (s : String) : List String := if s = "" then [] else s.splitOn ":"

/-- A host of 128 bits. Two colons in a row stand for as many groups of zero as are missing. -/
def six? (s : String) : Option Nat :=
  match s.splitOn "::" with
  | [all] => do
    let gs ← groups? true (pieces all)
    if gs.length = 8 then some (joined 65536 gs) else none
  | [front, back] => do
    let before ← groups? false (pieces front)
    let after ← groups? true (pieces back)
    if before.length + after.length ≤ 7 then
      some (joined 65536
        (before ++ List.replicate (8 - before.length - after.length) 0 ++ after))
    else none
  | _ => none

/-- A host, in brackets or without. In brackets a percent sign may begin the number of its scope. -/
def station? (host : String) : Option Station :=
  match host.toList, host.toList.reverse with
  | '[' :: _, ']' :: _ =>
    let inside := (host.toList.drop 1).dropLast
    let number := inside.takeWhile (· != '%')
    let scope := inside.drop number.length
    if scope = [] ∨ (inBase? 10 (scope.drop 1)).isSome then (six? (String.ofList number)).map .six
    else none
  | _, _ =>
    if host.toLower = "localhost" then some (.four 2130706433)
    else match four? host with
      | some n => some (.four n)
      | none => (six? host).map .six

/-- The address of a text: what follows the last colon is the port. -/
def read? (s : String) : Option Address :=
  match (s.splitOn ":").reverse with
  | port :: before :: more => do
    let host := String.intercalate ":" (before :: more).reverse
    some ⟨← station? host, ← port? port⟩
  | _ => none

/-! ## Listening -/

/-- Whether a host of 32 bits stands for the one that is asked, for all, or for a group of them. -/
def isOwnFour (n : Nat) : Bool :=
  n / 16777216 = 127 || n = 0 || n = 4294967295 || n / 268435456 = 14

/-- Whether the host may listen at the address. -/
def isOwn (a : Address) : Bool :=
  match a.station with
  | .four n => isOwnFour n
  | .six n => n = 0 || n = 1 || (n / 4294967296 = 65535 && isOwnFour (n % 4294967296))

end Address

end WorkDispatch.Coordinator
