import WorkDispatch.Bits
import WorkDispatch.Labels
import WorkDispatch.Wire.Field

/-!
Messages: values with a list of fields to write and a rule for taking a field in. A value equal to
its default is not written; of a field that comes twice the last counts, and messages inside
messages are merged. `Message.encode` and `Message.decode?` are the two directions.
-/

set_option autoImplicit false

namespace WorkDispatch.Wire

/-- A type of message. -/
class Message (α : Type) where
  /-- The message of which nothing was written. -/
  blank : α
  /-- What is written, in the order of the numbers. -/
  fields : α → List Field
  /-- Takes a field in; a field of another form than declared is refused. The number is how deep
  messages and groups may still nest. -/
  merge : Nat → α → Field → Option α

namespace Message

variable {α : Type} [Message α]

/-- The bytes of a message. -/
def encode (m : α) : Bytes := writeFields (fields m)

/-- Takes all fields of the bytes into a message. -/
def mergeBytes (depth : Nat) (m : α) (bs : Bytes) : Option α :=
  (readFields? depth bs).bind fun fs => fs.foldlM (merge depth) m

/-- The message that the bytes hold. -/
def decode? (bs : Bytes) : Option α := mergeBytes depthLimit blank bs

end Message

/-! ## Writing fields -/

namespace Write

/-- A signed number as the 64 bits that stand for it. -/
def word (n : Int) : Nat := (n % Bits.count64).toNat

def number (tag : Nat) (n : Int) : List Field := if n = 0 then [] else [⟨tag, .varint (word n)⟩]

def int32 (tag : Nat) (n : Int32) : List Field := number tag n.toInt

def int64 (tag : Nat) (n : Int64) : List Field := number tag n.toInt

def bool (tag : Nat) (b : Bool) : List Field := if b then [⟨tag, .varint 1⟩] else []

def bytes (tag : Nat) (b : Bytes) : List Field := if b = [] then [] else [⟨tag, .bytes b⟩]

def string (tag : Nat) (s : String) : List Field := bytes tag (Text.toUtf8 s)

/-- A message inside, also when nothing is written of it. -/
def inner {α : Type} [Message α] (tag : Nat) : Option α → List Field
  | none => []
  | some m => [⟨tag, .bytes (Message.encode m)⟩]

/-- Numbers in one field. -/
def packed (tag : Nat) (ns : List Int32) : List Field :=
  bytes tag (ns.flatMap fun n => varint (word n.toInt))

/-- An entry is a message of its key and its text. -/
def labels (tag : Nat) (m : Labels) : List Field :=
  m.entries.map fun e => ⟨tag, .bytes (writeFields (string 1 e.1 ++ string 2 e.2))⟩

end Write

/-! ## Reading fields -/

namespace Read

/-- The low 32 bits as a signed number. -/
def int32Of (n : Nat) : Int32 := Int32.ofInt (n : Int)

/-- The 64 bits as a signed number. -/
def int64Of (n : Nat) : Int64 := Int64.ofInt (n : Int)

def int32? : Content → Option Int32
  | .varint n => some (int32Of n)
  | _ => none

def int64? : Content → Option Int64
  | .varint n => some (int64Of n)
  | _ => none

def bool? : Content → Option Bool
  | .varint n => some (n != 0)
  | _ => none

def bytes? : Content → Option Bytes
  | .bytes b => some b
  | _ => none

def string? (c : Content) : Option String := (bytes? c).bind Text.ofUtf8?

/-- A message inside is merged with what was there of it. -/
def inner? {α : Type} [Message α] (depth : Nat) (was : Option α) (c : Content) :
    Option (Option α) := do
  let b ← bytes? c
  (Message.mergeBytes (depth - 1) (was.getD Message.blank) b).map some

/-- Numbers in one field, or one number, after those that were there. -/
def packed? (was : List Int32) : Content → Option (List Int32)
  | .varint n => some (was ++ [int32Of n])
  | .bytes b => (readVarints? b.length b).map fun ns => was ++ ns.map int32Of
  | _ => none

/-- Takes a field of an entry in. -/
def entryField (e : String × String) (f : Field) : Option (String × String) :=
  match f.number with
  | 1 => (string? f.content).map fun k => (k, e.2)
  | 2 => (string? f.content).map fun v => (e.1, v)
  | _ => some e

/-- An entry takes the place of an earlier one of its key. -/
def labels? (depth : Nat) (was : Labels) (c : Content) : Option Labels := do
  let b ← bytes? c
  let fs ← readFields? (depth - 1) b
  let (k, v) ← fs.foldlM entryField ("", "")
  some (was.insert k v)

end Read

end WorkDispatch.Wire
