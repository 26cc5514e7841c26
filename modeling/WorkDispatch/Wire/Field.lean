import WorkDispatch.Bits
import WorkDispatch.Wire.Varint

/-!
Messages as they lie on the wire: a sequence of numbered fields. `readFields?` takes bytes apart
without knowing the message, so that a field the message does not declare is passed over by whoever
interprets the fields.
-/

set_option autoImplicit false

namespace WorkDispatch.Wire

/-- What a field holds. A group is read to its end and its content is not kept. -/
inductive Content
  | varint (n : Nat)
  | fixed64 (bytes : Bytes)
  | bytes (bytes : Bytes)
  | group
  | fixed32 (bytes : Bytes)
  deriving DecidableEq, Repr

/-- A numbered field. -/
structure Field where
  number : Nat
  content : Content
  deriving DecidableEq, Repr

/-- The number of a content's form in a field's key. -/
def Content.form : Content → Nat
  | .varint _ => 0
  | .fixed64 _ => 1
  | .bytes _ => 2
  | .group => 3
  | .fixed32 _ => 5

/-- A field with its key; a group is written empty. -/
def Field.write (f : Field) : Bytes :=
  varint (f.number * 8 + f.content.form) ++
    match f.content with
    | .varint n => varint n
    | .fixed64 b => b
    | .bytes b => varint b.length ++ b
    | .group => varint (f.number * 8 + 4)
    | .fixed32 b => b

/-- Fields one after the other. -/
def writeFields (fs : List Field) : Bytes := fs.flatMap Field.write

/-- So many bytes, when there are as many. -/
def take? (n : Nat) (bs : Bytes) : Option (Bytes × Bytes) :=
  if n ≤ bs.length then some (bs.take n, bs.drop n) else none

/-- The key at the front: a field number that is not zero, and a form. -/
def readKey? (bs : Bytes) : Option (Nat × Nat × Bytes) := do
  let (key, rest) ← readVarint? bs
  if key < Bits.count32 ∧ 8 ≤ key then some (key / 8, key % 8, rest) else none

/-- Messages and groups nest at most so deep. -/
def depthLimit : Nat := 100

mutual

/-- The content of a field of a number and form. The first argument bounds the fields that are read,
the second the groups that may still open. -/
def readContent? : Nat → Nat → Nat → Nat → Bytes → Option (Content × Bytes)
  | 0, _, _, _, _ => none
  | fuel + 1, depth, number, form, bs =>
    match form with
    | 0 => (readVarint? bs).map fun (n, r) => (.varint n, r)
    | 1 => (take? 8 bs).map fun (b, r) => (.fixed64 b, r)
    | 2 => do
      let (n, rest) ← readVarint? bs
      (take? n rest).map fun (b, r) => (.bytes b, r)
    | 3 => (skipGroup? fuel depth number bs).map fun r => (.group, r)
    | 5 => (take? 4 bs).map fun (b, r) => (.fixed32 b, r)
    | _ => none

/-- Passes over the fields of a group, up to the mark that closes it. -/
def skipGroup? : Nat → Nat → Nat → Bytes → Option Bytes
  | 0, _, _, _ => none
  | fuel + 1, depth, number, bs => do
    let (n, form, rest) ← readKey? bs
    if form = 4 then (if n = number then some rest else none)
    else
      match depth with
      | 0 => none
      | depth + 1 =>
        let (_, rest) ← readContent? fuel depth n form rest
        skipGroup? fuel (depth + 1) number rest

end

/-- All fields of the bytes, to the end; the first argument bounds their number. -/
def readFieldsFrom? : Nat → Nat → Bytes → Option (List Field)
  | _, _, [] => some []
  | 0, _, _ => none
  | fuel + 1, depth, bs => do
    let (number, form, rest) ← readKey? bs
    let (content, rest) ← readContent? (2 * bs.length) (depth - 1) number form rest
    some (⟨number, content⟩ :: (← readFieldsFrom? fuel depth rest))

/-- All fields of the bytes, in which groups nest at most so deep. -/
def readFields? (depth : Nat) (bs : Bytes) : Option (List Field) :=
  readFieldsFrom? bs.length depth bs

end WorkDispatch.Wire
