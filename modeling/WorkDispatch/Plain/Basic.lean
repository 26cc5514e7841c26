import WorkDispatch.Binary64
import WorkDispatch.Bits
import WorkDispatch.Json.Fields
import WorkDispatch.Json.Writer
import WorkDispatch.Text.Utf8

/-!
The plain form of values: JSON for tools that look into the system from outside. Reading it is
lenient, so that a tool writes only what it means: a field that is missing or of another kind counts
as empty. What cannot be meant at all, or cannot be done, is `Unreadable`. Bytes are written in hexadecimal digits, points
in time as seconds and nanoseconds, and floating-point numbers by their bits.
-/

set_option autoImplicit false

namespace WorkDispatch.Plain

open Json

/-- Why a document is the plain form of nothing. -/
inductive Unreadable
  /-- It is not in the plain form. -/
  | malformed (why : String)
  /-- It holds a document of the system that does not decode. -/
  | undecodable
  /-- It asks for what cannot be: a point in time that there is none of, or more than memory holds. -/
  | impossible
  deriving DecidableEq

abbrev Read := Except Unreadable

def malformed {α : Type} (why : String) : Read α := .error (.malformed why)

/-- What a document of the system decodes to. -/
def decoded {α : Type} : Option α → Read α
  | some a => .ok a
  | none => .error .undecodable

/-- What is asked for, if it can be. -/
def possible {α : Type} : Option α → Read α
  | some a => .ok a
  | none => .error .impossible

/-! ## Fields -/

/-- A field that is there and not null. -/
def field? (j : Json) (k : String) : Option Json :=
  match Json.get? j k with
  | some .null => none
  | v => v

/-- A field, or null. -/
def field (j : Json) (k : String) : Json := (Json.get? j k).getD .null

def text (j : Json) (k : String) : String := ((field? j k).bind asString?).getD ""

/-- A whole number of 64 bits with its sign, if there is one. -/
def int? (j : Json) (k : String) : Option Int :=
  (field? j k).bind (asInt? (-Bits.count63) (Bits.count63 - 1))

def int (j : Json) (k : String) : Int := (int? j k).getD 0

/-- A count of 64 bits, if there is one. -/
def nat? (j : Json) (k : String) : Option Nat := (field? j k).bind (asCount? 64)

def nat (j : Json) (k : String) (default : Nat := 0) : Nat := (nat? j k).getD default

/-- The lowest 32 bits of a count. -/
def nat32 (j : Json) (k : String) (default : Nat := 0) : Nat := nat j k default % Bits.count32

def flag (j : Json) (k : String) : Bool := ((field? j k).bind asBool?).getD false

def list (j : Json) (k : String) : List Json :=
  match field? j k with
  | some (.array vs) => vs
  | _ => []

def labels (j : Json) (k : String) : Labels :=
  match field? j k with
  | some (.object ms) => .ofList (ms.filterMap fun m => (asString? m.2).map fun v => (m.1, v))
  | _ => .empty

/-- A number that has 32 bits. -/
def int32 (j : Json) (k : String) : Read Int32 :=
  let n := int j k
  if n < -Bits.count31 ∨ Bits.count31 ≤ n then malformed (k ++ " is not an i32") else .ok (.ofInt n)

/-- The nanoseconds of whole seconds, which have 64 bits as milliseconds. -/
def seconds (j : Json) (k : String) : Read Int :=
  let n := int j k
  possible (if n.natAbs ≤ 9223372036854775 then some (n * 1000000000) else none)

/-- Numbers that have 32 bits each. -/
def int32s (j : Json) (k : String) : Read (List Int32) :=
  (list j k).mapM fun v => int32 (.object [(k, v)]) k

/-- A length of time: a number of milliseconds, or seconds and nanoseconds. -/
def span? (j : Json) (k : String) : Option Span :=
  (field? j k).map fun v => match v with
    | .number (.integer n) => .ofMillis n.toNat
    | v => .ofParts (nat v "secs") (nat v "nanos")

/-- A floating-point number; those that are none have names. -/
def float? (j : Json) (k : String) : Option Float :=
  (field? j k).bind fun v => match v with
    | .string "nan" => some (0.0 / 0.0)
    | .string "inf" => some (1.0 / 0.0)
    | .string "-inf" => some (-1.0 / 0.0)
    | v => asFloat? v

def ofFloat (x : Float) : Json :=
  if x.isNaN then .string "f64:nan"
  else
    let h := Nat.toDigits 16 x.toBits.toNat
    .string ("f64:" ++ String.ofList (List.replicate (16 - h.length) '0' ++ h))

/-- Names in their order, where they come from a collection that has none. -/
def ofNames (ks : List String) : Json := ofStrings (ks.mergeSort fun a b => decide (a ≤ b))

/-! ## Bytes -/

def hexDigits (b : Bytes) : String :=
  String.ofList (b.flatMap fun x => [hexDigit (x.toNat / 16), hexDigit (x.toNat % 16)])

def ofBytes (b : Bytes) : Json := .string (hexDigits b)

/-- The bytes of an even number of digits. -/
def ofHexPairs : Bytes → Read Bytes
  | a :: c :: r =>
    match hexValue? a, hexValue? c with
    | some x, some y => do .ok (UInt8.ofNat (x * 16 + y) :: (← ofHexPairs r))
    | _, _ => malformed "bad hex"
  | _ => .ok []

def ofHex (s : String) : Read Bytes :=
  if s.utf8ByteSize % 2 = 1 then malformed "odd hex" else ofHexPairs (Text.toUtf8 s)

/-- Bytes, as digits if there are any, and as text otherwise. -/
def bytes (j : Json) (k : String) : Read Bytes :=
  match field? j (k ++ "_hex") with
  | some (.string h) => ofHex h
  | _ => .ok (Text.toUtf8 (text j k))

end WorkDispatch.Plain
