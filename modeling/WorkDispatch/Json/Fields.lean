import WorkDispatch.Binary64
import WorkDispatch.Bits
import WorkDispatch.Json.Scanner
import WorkDispatch.Labels
import WorkDispatch.Time.Rfc3339

/-!
Reading typed values out of a document. A record may be written as an object, whose unknown members
count for nothing, or as an array of its fields in their order. `Fields` is a record being read.
-/

set_option autoImplicit false

namespace WorkDispatch.Json

/-- Reads a value of a type, or refuses. -/
abbrev Reader (α : Type) := Json → Option α

def asString? : Reader String
  | .string s => some s
  | _ => none

def asBool? : Reader Bool
  | .bool b => some b
  | _ => none

/-- A whole number within bounds. -/
def asInt? (lo hi : Int) : Reader Int
  | .number (.integer n) => if lo ≤ n ∧ n ≤ hi then some n else none
  | _ => none

/-- A count below a power of two. -/
def asCount? (bits : Nat) : Reader Nat
  | .number (.integer n) => if 0 ≤ n ∧ n < Bits.count bits then some n.toNat else none
  | _ => none

def asFloat? : Reader Float
  | .number n => some (Binary64.ofNumber n)
  | _ => none

def asList? {α : Type} (f : Reader α) : Reader (List α)
  | .array xs => xs.mapM f
  | _ => none

/-- Null for nothing. -/
def asOption? {α : Type} (f : Reader α) : Reader (Option α)
  | .null => some none
  | doc => (f doc).map some

def asLabels? : Reader Labels
  | .object ms => (ms.mapM fun (m : String × Json) => (asString? m.2).map fun v => (m.1, v)).map Labels.ofList
  | _ => none

def asInstant? : Reader Instant := fun doc => (asString? doc).bind Instant.read?

/-- A record being read: what was written for each field. -/
structure Fields where
  names : List String
  members : List (String × Json)
  /-- Whether the record was written as an array, in which no field may be left out. -/
  positional : Bool

/-- The fields of a record, given their names in order. -/
def fields? (names : List String) : Json → Option Fields
  | .object ms => some ⟨names, ms.filter (fun m => names.contains m.1), false⟩
  | .array xs => if xs.length ≤ names.length then some ⟨names, names.zip xs, true⟩ else none
  | _ => none

namespace Fields

def get? (fs : Fields) (name : String) : Option Json :=
  (fs.members.reverse.find? (·.1 == name)).map (·.2)

/-- A field that must be written. -/
def required {α : Type} (fs : Fields) (name : String) (f : Reader α) : Option α :=
  (fs.get? name).bind f

/-- A field that stands for a given value when it is not written. -/
def withDefault {α : Type} (fs : Fields) (name : String) (default : α) (f : Reader α) : Option α :=
  match fs.get? name with
  | some doc => f doc
  | none => some default

/-- A field that may be null, and may be left out where fields have names. -/
def optional {α : Type} (fs : Fields) (name : String) (f : Reader α) : Option (Option α) :=
  match fs.get? name with
  | some doc => asOption? f doc
  | none => if fs.positional then none else some none

end Fields

/-- The document of the given members in a scanned record: names are read, other members are not,
and a name that comes twice is refused. A scanned array is read whole. -/
def known? (names : List String) : Tree Bytes → Option Json
  | .object ms => do
    let named ← ms.mapM fun (m : Bytes × Tree Bytes) => (text? m.1).map fun k => (k, m.2)
    let wanted := named.filter fun m => names.contains m.1
    if names.any fun n => 1 < (wanted.filter fun m => m.1 == n).length then none
    else
      let read ← wanted.mapM fun m => m.2.read?.map fun x => (m.1, x)
      some (.object read)
  | doc => doc.read?

/-- A span as its seconds and nanoseconds; both are needed, nothing else may be written, and full
seconds of nanoseconds are carried. -/
def asSpan? : Reader Span := fun doc => do
  let fs ← fields? ["secs", "nanos"] doc
  match doc with
  | .object ms => if ms.any fun m => m.1 != "secs" && m.1 != "nanos" then none
  | _ => pure ()
  let secs ← fs.required "secs" (asCount? 64)
  let nanos ← fs.required "nanos" (asCount? 32)
  let s := Span.ofParts secs nanos
  if s.nanoseconds < Span.limit then some s else none

/-- A span as its seconds and nanoseconds. -/
def ofSpan (s : Span) : Json := .object [("secs", ofNat s.secs), ("nanos", ofNat s.subsecNanos)]

def ofInstant (i : Instant) : Json := .string i.text

end WorkDispatch.Json
