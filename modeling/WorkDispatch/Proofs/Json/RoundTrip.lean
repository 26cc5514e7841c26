import WorkDispatch.Proofs.Json.Numbers
import WorkDispatch.Proofs.Json.Strings

/-!
# Documents are read as they were written

`scanned` is a document with its strings left as they are written. The scanner finds it in the bytes
of the document (`scan?_write`), and reading its strings gives the document (`read?_scanned`), so
that every document is read back from its bytes: `read?_write`. What the scanner may still read is
at least two for each byte of a value and one more for a list of them, and so it always suffices.
-/

set_option autoImplicit false

namespace WorkDispatch.Json

open Text

mutual

/-- A document with its strings left as they are written. -/
def scanned : Json → Tree Bytes
  | .null => .null
  | .bool b => .bool b
  | .number n => .number n
  | .string s => .string (raw s)
  | .array xs => .array (scannedItems xs)
  | .object ms => .object (scannedMembers ms)

def scannedItems : List Json → List (Tree Bytes)
  | [] => []
  | x :: xs => scanned x :: scannedItems xs

def scannedMembers : List (String × Json) → List (Bytes × Tree Bytes)
  | [] => []
  | (k, x) :: ms => (raw k, scanned x) :: scannedMembers ms

end

/-! ## Reading -/

mutual

/-- The strings of a scanned document are read back. -/
theorem read?_scanned : (doc : Json) → (scanned doc).read? = some doc
  | .null => rfl
  | .bool _ => rfl
  | .number _ => rfl
  | .string s => by rw [scanned, Tree.read?, text?_raw]; rfl
  | .array xs => by rw [scanned, Tree.read?, readItems?_scanned xs]; rfl
  | .object ms => by rw [scanned, Tree.read?, readMembers?_scanned ms]; rfl

/-- So are those of a list. -/
theorem readItems?_scanned : (xs : List Json) → readItems? (scannedItems xs) = some xs
  | [] => rfl
  | x :: xs => by
    rw [scannedItems, readItems?, read?_scanned x, readItems?_scanned xs]
    rfl

/-- So are those of an object. -/
theorem readMembers?_scanned : (ms : List (String × Json)) →
    readMembers? (scannedMembers ms) = some ms
  | [] => rfl
  | (k, x) :: ms => by
    rw [scannedMembers, readMembers?, text?_raw, read?_scanned x, readMembers?_scanned ms]
    rfl

end

/-! ## Texts -/

/-- What is no space is not skipped. -/
theorem skipSpace_cons {b : UInt8} (h : isSpace b = false) (bs : Bytes) :
    skipSpace (b :: bs) = b :: bs := by
  rw [skipSpace, List.dropWhile_cons, if_neg (by rw [h]; exact Bool.false_ne_true)]

/-- Commas stand between the parts of a list. -/
theorem toUtf8_intercalate (s t : String) (l : List String) :
    toUtf8 (",".intercalate (s :: t :: l)) =
      toUtf8 s ++ 0x2C :: toUtf8 (",".intercalate (t :: l)) := by
  rw [String.intercalate_cons_cons, toUtf8_append, toUtf8_append, List.append_assoc]
  rfl

theorem toUtf8_write_array (xs : List Json) :
    toUtf8 (write (.array xs)) = 0x5B :: (toUtf8 (",".intercalate (writeItems xs)) ++ [0x5D]) := by
  rw [write, toUtf8_append, toUtf8_append]
  rfl

theorem toUtf8_write_object (ms : List (String × Json)) :
    toUtf8 (write (.object ms)) =
      0x7B :: (toUtf8 (",".intercalate (writeMembers ms)) ++ [0x7D]) := by
  rw [write, toUtf8_append, toUtf8_append]
  rfl

/-- What a number begins with begins nothing else. -/
theorem ne_of_begins {b c : UInt8} (h : isDigit b = true ∨ b = 0x2D) (other : isDigit c = false)
    (mark : c ≠ 0x2D) : b ≠ c := by
  rcases h with digit | rfl
  · exact ne_of_isDigit digit other
  · exact mark.symm

/-- No number begins with a space. -/
theorem isSpace_of_begins {b : UInt8} (h : isDigit b = true ∨ b = 0x2D) : isSpace b = false := by
  have different : b ≠ 0x20 ∧ b ≠ 0x09 ∧ b ≠ 0x0A ∧ b ≠ 0x0D :=
    ⟨ne_of_begins h rfl (by decide), ne_of_begins h rfl (by decide), ne_of_begins h rfl (by decide),
      ne_of_begins h rfl (by decide)⟩
  simp only [isSpace, Bool.or_eq_false_iff, beq_eq_false_iff_ne, and_assoc]
  exact different

/-- The text of a value begins with a mark that is no blank and does not close an array. -/
theorem write_head (doc : Json) :
    ∃ b bs, toUtf8 (write doc) = b :: bs ∧ isSpace b = false ∧ b ≠ 0x5D := by
  cases doc with
  | null => exact ⟨0x6E, _, rfl, rfl, by decide⟩
  | bool b =>
    cases b with
    | true => exact ⟨0x74, _, rfl, rfl, by decide⟩
    | false => exact ⟨0x66, _, rfl, rfl, by decide⟩
  | number n =>
    obtain ⟨b, bs, text, begins⟩ := number_head n
    exact ⟨b, bs, text, isSpace_of_begins begins, ne_of_begins begins rfl (by decide)⟩
  | string s => exact ⟨0x22, _, toUtf8_writeString s, rfl, by decide⟩
  | array xs => exact ⟨0x5B, _, toUtf8_write_array xs, rfl, by decide⟩
  | object ms => exact ⟨0x7B, _, toUtf8_write_object ms, rfl, by decide⟩

/-- A list that is not empty begins with no space, and not with its end. -/
theorem items_head (x : Json) (xs : List Json) :
    ∃ b bs, toUtf8 (",".intercalate (writeItems (x :: xs))) = b :: bs ∧ isSpace b = false ∧
      b ≠ 0x5D := by
  obtain ⟨b, bs, text, space, more⟩ := write_head x
  cases xs with
  | nil =>
    rw [writeItems, writeItems, String.intercalate_singleton]
    exact ⟨b, bs, text, space, more⟩
  | cons y xs =>
    rw [writeItems, writeItems, toUtf8_intercalate, text]
    exact ⟨b, _, rfl, space, more⟩

theorem toUtf8_member (key : String) (x : Json) :
    toUtf8 (writeString key ++ ":" ++ write x) =
      0x22 :: (raw key ++ 0x22 :: 0x3A :: toUtf8 (write x)) := by
  have colon : toUtf8 ":" = [0x3A] := rfl
  rw [toUtf8_append, toUtf8_append, toUtf8_writeString, colon]
  simp only [List.cons_append, List.append_assoc, List.nil_append]

/-- An object that is not empty begins with a string. -/
theorem members_head (key : String) (x : Json) (ms : List (String × Json)) :
    ∃ bs, toUtf8 (",".intercalate (writeMembers ((key, x) :: ms))) = 0x22 :: bs := by
  cases ms with
  | nil =>
    rw [writeMembers, writeMembers, String.intercalate_singleton, toUtf8_member]
    exact ⟨_, rfl⟩
  | cons m ms =>
    rw [writeMembers, writeMembers, toUtf8_intercalate, toUtf8_member]
    exact ⟨_, rfl⟩

/-! ## Scanning -/

/-- What begins like a number is scanned as one. -/
theorem scanValue_number (fuel : Nat) {b : UInt8} (h : isDigit b = true ∨ b = 0x2D) (bs : Bytes) :
    scanValue (fuel + 1) (b :: bs) = (scanNumber (b :: bs)).map fun p => (.number p.1, p.2) := by
  rw [scanValue, skipSpace_cons (isSpace_of_begins h)]
  split
  · next eq => exact absurd (List.cons.inj eq).1 (ne_of_begins h rfl (by decide))
  · next eq => exact absurd (List.cons.inj eq).1 (ne_of_begins h rfl (by decide))
  · next eq => exact absurd (List.cons.inj eq).1 (ne_of_begins h rfl (by decide))
  · next eq => exact absurd (List.cons.inj eq).1 (ne_of_begins h rfl (by decide))
  · next eq => exact absurd (List.cons.inj eq).1 (ne_of_begins h rfl (by decide))
  · next eq => exact absurd (List.cons.inj eq).1 (ne_of_begins h rfl (by decide))
  · rfl

/-- What begins like a list with something in it is scanned as one. -/
theorem scanValue_array (fuel : Nat) {b : UInt8} (space : isSpace b = false) (more : b ≠ 0x5D)
    (bs : Bytes) :
    scanValue (fuel + 1) (0x5B :: b :: bs) =
      (scanItems fuel (b :: bs)).map fun p => (.array p.1, p.2) := by
  rw [scanValue, skipSpace_cons rfl]
  simp only [skipSpace_cons space]
  split
  · next h => exact absurd (List.cons.inj h).1 more
  · rfl

/-- What begins like an object with something in it is scanned as one. -/
theorem scanValue_object (fuel : Nat) (bs : Bytes) :
    scanValue (fuel + 1) (0x7B :: 0x22 :: bs) =
      (scanMembers fuel (0x22 :: bs)).map fun p => (.object p.1, p.2) := by
  rw [scanValue, skipSpace_cons rfl]
  rfl

/-- After a comma there are more items. -/
theorem scanItems_more {fuel : Nat} {bs rest : Bytes} {x : Tree Bytes}
    (first : scanValue fuel bs = some (x, 0x2C :: rest)) :
    scanItems (fuel + 1) bs = (scanItems fuel rest).map fun p => (x :: p.1, p.2) := by
  rw [scanItems, first]
  show (scanItems fuel rest).bind _ = _
  cases scanItems fuel rest with
  | none => rfl
  | some p => rfl

/-- Before the bracket there are none. -/
theorem scanItems_last {fuel : Nat} {bs rest : Bytes} {x : Tree Bytes}
    (first : scanValue fuel bs = some (x, 0x5D :: rest)) :
    scanItems (fuel + 1) bs = some ([x], rest) := by
  rw [scanItems, first]
  rfl

/-- After a comma there are more members. -/
theorem scanMembers_more {fuel : Nat} (key : String) {bs rest : Bytes} {x : Tree Bytes}
    (first : scanValue fuel bs = some (x, 0x2C :: rest)) :
    scanMembers (fuel + 1) (0x22 :: (raw key ++ 0x22 :: 0x3A :: bs)) =
      (scanMembers fuel rest).map fun p => ((raw key, x) :: p.1, p.2) := by
  rw [scanMembers, skipSpace_cons rfl]
  show (scanString _).bind _ = _
  rw [scanString_raw]
  show (scanValue fuel bs).bind _ = _
  rw [first]
  show (scanMembers fuel rest).bind _ = _
  cases scanMembers fuel rest with
  | none => rfl
  | some p => rfl

/-- Before the brace there are none. -/
theorem scanMembers_last {fuel : Nat} (key : String) {bs rest : Bytes} {x : Tree Bytes}
    (first : scanValue fuel bs = some (x, 0x7D :: rest)) :
    scanMembers (fuel + 1) (0x22 :: (raw key ++ 0x22 :: 0x3A :: bs)) =
      some ([(raw key, x)], rest) := by
  rw [scanMembers, skipSpace_cons rfl]
  show (scanString _).bind _ = _
  rw [scanString_raw]
  show (scanValue fuel bs).bind _ = _
  rw [first]
  rfl

/-- What suffices for a list of values suffices for the list and for a value in it. -/
theorem exists_fuel (doc : Json) (fuel : Nat) (enough : 2 * (toUtf8 (write doc)).length < fuel) :
    ∃ k, fuel = k + 1 + 1 := by
  obtain ⟨b, bs, text, -⟩ := write_head doc
  rw [text, List.length_cons] at enough
  exact ⟨fuel - 2, by omega⟩

mutual

/-- A document is scanned up to where it ends. -/
theorem scanValue_write : (doc : Json) → ∀ (fuel : Nat) {rest : Bytes}, Ends rest →
    2 * (toUtf8 (write doc)).length ≤ fuel + 1 →
    scanValue (fuel + 1) (toUtf8 (write doc) ++ rest) = some (scanned doc, rest)
  | .null => fun _ _ _ _ => rfl
  | .bool true => fun _ _ _ _ => rfl
  | .bool false => fun _ _ _ _ => rfl
  | .number n => by
    intro fuel rest ends _
    obtain ⟨b, bs, text, begins⟩ := number_head n
    have number := scanNumber_write n ends
    rw [text, List.cons_append] at number
    rw [write, text, List.cons_append, scanValue_number fuel begins, number]
    rfl
  | .string s => by
    intro fuel rest _ _
    rw [write, toUtf8_writeString, scanValue, List.cons_append, skipSpace_cons rfl]
    show (scanString _).map _ = _
    rw [List.append_assoc, List.singleton_append, scanString_raw]
    rfl
  | .array [] => fun _ _ _ _ => rfl
  | .array (x :: xs) => by
    intro fuel rest _ enough
    -- The scanner tells an array with items from an empty one by the first byte that is no space.
    obtain ⟨b, bs, text, space, more⟩ := items_head x xs
    rw [toUtf8_write_array, List.length_cons, List.length_append] at enough
    have items := scanItems_write x xs fuel rest (by omega)
    rw [text, List.cons_append] at items
    rw [toUtf8_write_array, List.cons_append, List.append_assoc, List.singleton_append, text,
      List.cons_append, scanValue_array fuel space more, items]
    rfl
  | .object [] => fun _ _ _ _ => rfl
  | .object ((key, x) :: ms) => by
    intro fuel rest _ enough
    obtain ⟨bs, text⟩ := members_head key x ms
    rw [toUtf8_write_object, List.length_cons, List.length_append] at enough
    have members := scanMembers_write key x ms fuel rest (by omega)
    rw [text, List.cons_append] at members
    rw [toUtf8_write_object, List.cons_append, List.append_assoc, List.singleton_append, text,
      List.cons_append, scanValue_object fuel, members]
    rfl
  termination_by doc => sizeOf doc

/-- The scanner finds the items of a list in their bytes. -/
theorem scanItems_write : (x : Json) → (xs : List Json) → ∀ (fuel : Nat) (rest : Bytes),
    2 * (toUtf8 (",".intercalate (writeItems (x :: xs)))).length < fuel →
    scanItems fuel (toUtf8 (",".intercalate (writeItems (x :: xs))) ++ 0x5D :: rest) =
      some (scannedItems (x :: xs), rest)
  | x, [] => by
    intro fuel rest enough
    have text : ",".intercalate (writeItems [x]) = write x := String.intercalate_singleton
    rw [text] at enough ⊢
    -- One of the fuel goes for the list, and one for the item.
    obtain ⟨fuel, rfl⟩ := exists_fuel x fuel enough
    exact scanItems_last (scanValue_write x _ (ends_cons (by decide) rest) (by omega))
  | x, y :: xs => by
    intro fuel rest enough
    have text : toUtf8 (",".intercalate (writeItems (x :: y :: xs))) =
        toUtf8 (write x) ++ 0x2C :: toUtf8 (",".intercalate (writeItems (y :: xs))) :=
      toUtf8_intercalate (write x) (write y) (writeItems xs)
    rw [text, List.length_append, List.length_cons] at enough
    obtain ⟨fuel, rfl⟩ := exists_fuel x fuel (by omega)
    rw [text, List.append_assoc, List.cons_append,
      scanItems_more (scanValue_write x _ (ends_cons (by decide) _) (by omega)),
      scanItems_write y xs _ rest (by omega)]
    rfl
  termination_by x xs => sizeOf x + sizeOf xs

/-- The scanner finds the members of an object in theirs. -/
theorem scanMembers_write : (key : String) → (x : Json) → (ms : List (String × Json)) →
    ∀ (fuel : Nat) (rest : Bytes),
    2 * (toUtf8 (",".intercalate (writeMembers ((key, x) :: ms)))).length < fuel →
    scanMembers fuel (toUtf8 (",".intercalate (writeMembers ((key, x) :: ms))) ++ 0x7D :: rest) =
      some (scannedMembers ((key, x) :: ms), rest)
  | key, x, [] => by
    intro fuel rest enough
    have text : toUtf8 (",".intercalate (writeMembers [(key, x)])) =
        0x22 :: (raw key ++ 0x22 :: 0x3A :: toUtf8 (write x)) := by
      rw [writeMembers, writeMembers, String.intercalate_singleton, toUtf8_member]
    rw [text] at enough ⊢
    simp only [List.length_cons, List.length_append] at enough
    simp only [List.cons_append, List.append_assoc]
    obtain ⟨fuel, rfl⟩ := exists_fuel x fuel (by omega)
    exact scanMembers_last key (scanValue_write x _ (ends_cons (by decide) rest) (by omega))
  | key, x, (key', y) :: ms => by
    intro fuel rest enough
    have text : toUtf8 (",".intercalate (writeMembers ((key, x) :: (key', y) :: ms))) =
        0x22 :: (raw key ++ 0x22 :: 0x3A :: toUtf8 (write x)) ++
          0x2C :: toUtf8 (",".intercalate (writeMembers ((key', y) :: ms))) := by
      rw [← toUtf8_member]
      exact toUtf8_intercalate _ _ (writeMembers ms)
    rw [text] at enough ⊢
    simp only [List.length_cons, List.length_append] at enough
    simp only [List.cons_append, List.append_assoc]
    obtain ⟨fuel, rfl⟩ := exists_fuel x fuel (by omega)
    rw [scanMembers_more key (scanValue_write x _ (ends_cons (by decide) _) (by omega)),
      scanMembers_write key' y ms _ rest (by omega)]
    rfl
  termination_by _ x ms => sizeOf x + sizeOf ms

end

/-- The scanner finds the document in its bytes. -/
theorem scan?_write (doc : Json) : scan? (toUtf8 (write doc)) = some (scanned doc) := by
  have found := scanValue_write doc (2 * (toUtf8 (write doc)).length + 1) ends_nil (by omega)
  rw [List.append_nil] at found
  rw [scan?, found]
  rfl

/-- Every document is read back from its bytes. -/
theorem read?_write (doc : Json) : read? (toUtf8 (write doc)) = some doc := by
  rw [read?, scan?_write, Option.bind_some, read?_scanned]

end WorkDispatch.Json
