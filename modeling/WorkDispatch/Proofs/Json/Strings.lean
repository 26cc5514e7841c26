import WorkDispatch.Json.Fields
import WorkDispatch.Json.Writer
import WorkDispatch.Proofs.Text.Utf8

/-!
# Strings are read as they were written

Between its quotes, a string is written as a run of characters, each in one of the three forms that
`Written` lists. A form is all that the scanner and the reader need to know about a character: the
scanner passes over it whole (`scanString_written`), and the reader finds the bytes of the character
in it (`unescape_written`). So a string is scanned up to its own quote and read back, whatever is in
it: `scanString_raw` and `text?_raw`.
-/

set_option autoImplicit false

namespace WorkDispatch.Json

open Text

/-! ## Written characters -/

/-- A byte that stands for itself inside a string. -/
def Plain (b : UInt8) : Prop := ¬ b < 0x20 ∧ b ≠ 0x22 ∧ b ≠ 0x5C

/-- The forms in which a character stands inside a string. -/
inductive Written (c : Char) : Bytes → Prop
  /-- A character that is not escaped stands for itself. -/
  | plain (own : ∀ b ∈ String.utf8EncodeChar c, Plain b) : Written c (String.utf8EncodeChar c)
  /-- A letter after a backslash. -/
  | short (e b : UInt8) (letter : e ≠ 0x75) (known : escapes.lookup e = some b)
      (own : String.utf8EncodeChar c = [b]) : Written c [0x5C, e]
  /-- The number of a control in four digits. -/
  | digits (x y : UInt8) (value : hex4? 0x30 0x30 x y = some c.toNat) (control : c.toNat < 0x20) :
      Written c [0x5C, 0x75, 0x30, 0x30, x, y]

/-- The byte of the digit of a number below 16, which is read as the number. -/
theorem hexValue?_hexDigit {n : Nat} (h : n < 16) :
    ∃ b, String.utf8EncodeChar (hexDigit n) = [b] ∧ hexValue? b = some n := by
  have digits : ∀ n < 16, String.utf8EncodeChar (hexDigit n) = [UInt8.ofNat (hexDigit n).toNat] ∧
      hexValue? (UInt8.ofNat (hexDigit n).toNat) = some n := by
    decide
  exact ⟨_, digits n h⟩

/-- Bytes beyond the first half are written as they are. -/
theorem plain_of_le {b : UInt8} (h : 128 ≤ b.toNat) : Plain b := by
  refine ⟨fun small => ?_, fun quote => ?_, fun escape => ?_⟩
  · have below : b.toNat < 32 := small
    omega
  · rw [quote] at h
    exact absurd h (by decide)
  · rw [escape] at h
    exact absurd h (by decide)

/-- A character that is neither a quote nor a backslash nor a control has plain bytes only. -/
theorem plain_of_mem {c : Char} (quote : c ≠ '"') (escape : c ≠ '\\') (control : ¬ c.toNat < 0x20)
    {b : UInt8} (h : b ∈ String.utf8EncodeChar c) : Plain b := by
  by_cases ascii : c.toNat < 128
  · have different : ∀ d : Char, c ≠ d → c.toNat ≠ d.toNat :=
      fun d ne eq => ne (Char.toNat_inj.1 eq)
    have noQuote := different '"' quote
    have noEscape := different '\\' escape
    rw [utf8EncodeChar_of_lt ascii, List.mem_singleton] at h
    have number : b.toNat = c.toNat := by
      rw [h, UInt8.toNat_ofNat']
      omega
    refine ⟨fun small => control ?_, fun eq => noQuote ?_, fun eq => noEscape ?_⟩
    · rw [← number]
      exact small
    · rw [← number, eq]
      rfl
    · rw [← number, eq]
      rfl
  · exact plain_of_le (le_of_mem_utf8EncodeChar (Nat.not_lt.1 ascii) h)

/-- Every character is written in one of the forms. -/
theorem written_escapeChar (c : Char) :
    Written c ((escapeChar c).flatMap String.utf8EncodeChar) := by
  unfold escapeChar
  split
  · next h =>
    subst h
    exact .short 0x22 0x22 (by decide) rfl rfl
  split
  · next h =>
    subst h
    exact .short 0x5C 0x5C (by decide) rfl rfl
  split
  · next h =>
    subst h
    exact .short 0x62 0x08 (by decide) rfl rfl
  split
  · next h =>
    subst h
    exact .short 0x66 0x0C (by decide) rfl rfl
  split
  · next h =>
    subst h
    exact .short 0x6E 0x0A (by decide) rfl rfl
  split
  · next h =>
    subst h
    exact .short 0x72 0x0D (by decide) rfl rfl
  split
  · next h =>
    subst h
    exact .short 0x74 0x09 (by decide) rfl rfl
  split
  · next control =>
    obtain ⟨x, hx, vx⟩ := hexValue?_hexDigit (n := c.toNat / 16) (by omega)
    obtain ⟨y, hy, vy⟩ := hexValue?_hexDigit (n := c.toNat % 16) (by omega)
    have zero : hexValue? 0x30 = some 0 := rfl
    have value : hex4? 0x30 0x30 x y = some c.toNat := by
      simp only [hex4?, zero, vx, vy, Option.bind_eq_bind, Option.bind_some]
      rw [show ((0 * 16 + 0) * 16 + c.toNat / 16) * 16 + c.toNat % 16 = c.toNat by omega]
    have bytes : (['\\', 'u', '0', '0', hexDigit (c.toNat / 16), hexDigit (c.toNat % 16)]).flatMap
        String.utf8EncodeChar = [0x5C, 0x75, 0x30, 0x30, x, y] := by
      simp only [List.flatMap_cons, List.flatMap_nil, hx, hy]
      rfl
    rw [bytes]
    exact .digits x y value control
  · next quote escape _ _ _ _ _ control =>
    rw [List.flatMap_singleton]
    exact .plain fun b h => plain_of_mem quote escape control h

/-! ## Scanning -/

/-- A byte that is written as it is is scanned as it is. -/
theorem scanString_plain {b : UInt8} (h : Plain b) (rest : Bytes) :
    scanString (b :: rest) = (scanString rest).map fun p => (b :: p.1, p.2) := by
  obtain ⟨control, quote, escape⟩ := h
  rw [scanString.eq_5 b rest quote (fun _ _ _ _ _ h => absurd h escape)
    (fun _ _ h => absurd h escape), if_neg (by simp only [control, escape, or_self, not_false_iff])]
  cases scanString rest with
  | none => rfl
  | some p => rfl

/-- The scanner passes over a written character whole. -/
theorem scanString_written {c : Char} {bs : Bytes} (h : Written c bs) (rest : Bytes) :
    scanString (bs ++ rest) = (scanString rest).map fun p => (bs ++ p.1, p.2) := by
  cases h with
  | plain own =>
    generalize String.utf8EncodeChar c = bs at own
    induction bs with
    | nil =>
      show _ = (scanString rest).map id
      rw [Option.map_id]
      rfl
    | cons b bs ih =>
      rw [List.cons_append, scanString_plain (own b List.mem_cons_self),
        ih fun b h => own b (List.mem_cons_of_mem _ h), Option.map_map]
      rfl
  | short e b letter known own =>
    show scanString (0x5C :: e :: rest) = _
    rw [scanString.eq_4 e rest fun _ _ _ _ _ h => absurd h letter, known]
    cases scanString rest with
    | none => rfl
    | some p => rfl
  | digits x y value control =>
    show scanString (0x5C :: 0x75 :: 0x30 :: 0x30 :: x :: y :: rest) = _
    rw [scanString.eq_3, value]
    cases scanString rest with
    | none => rfl
    | some p => rfl

/-! ## Reading -/

/-- The reader finds the bytes of the character in what is written for it. -/
theorem unescape_written {c : Char} {bs : Bytes} (h : Written c bs) (rest : Bytes) :
    unescape (bs ++ rest) = (unescape rest).map (String.utf8EncodeChar c ++ ·) := by
  cases h with
  | plain own =>
    generalize String.utf8EncodeChar c = bs at own
    induction bs with
    | nil =>
      show _ = (unescape rest).map id
      rw [Option.map_id]
      rfl
    | cons b bs ih =>
      have escape : b ≠ 0x5C := (own b List.mem_cons_self).2.2
      rw [List.cons_append, unescape.eq_4 b _ (fun _ _ _ _ _ h => absurd h escape)
        (fun _ _ h => absurd h escape), ih fun b h => own b (List.mem_cons_of_mem _ h)]
      cases unescape rest with
      | none => rfl
      | some p => rfl
  | short e b letter known own =>
    show unescape (0x5C :: e :: rest) = _
    rw [unescape.eq_3 e rest fun _ _ _ _ _ h => absurd h letter, known, own]
    cases unescape rest with
    | none => rfl
    | some p => rfl
  | digits x y value control =>
    show unescape (0x5C :: 0x75 :: 0x30 :: 0x30 :: x :: y :: rest) = _
    -- Only control characters are written so, and none of them is half of a pair.
    have low : ¬ (0xD800 ≤ c.toNat ∧ c.toNat < 0xDC00) := by omega
    have high : ¬ (0xDC00 ≤ c.toNat ∧ c.toNat < 0xE000) := by omega
    rw [unescape.eq_2, value]
    show (if 0xD800 ≤ c.toNat ∧ c.toNat < 0xDC00 then _ else _) = _
    rw [if_neg low, if_neg high, utf8OfCodePoint, Char.ofNat_toNat]
    cases unescape rest with
    | none => rfl
    | some p => rfl

/-! ## Strings -/

/-- What stands between the quotes of a written string. -/
def raw (s : String) : Bytes := (s.toList.flatMap escapeChar).flatMap String.utf8EncodeChar

/-- A string is written between quotes. -/
theorem toUtf8_writeString (s : String) : toUtf8 (writeString s) = 0x22 :: (raw s ++ [0x22]) := by
  rw [writeString, toUtf8_append, toUtf8_append, toUtf8_ofList (s.toList.flatMap escapeChar)]
  rfl

/-- A written string is scanned up to its own quote. -/
theorem scanString_raw (s : String) (rest : Bytes) :
    scanString (raw s ++ 0x22 :: rest) = some (raw s, rest) := by
  unfold raw
  induction s.toList with
  | nil => rfl
  | cons c cs ih =>
    rw [List.flatMap_cons, List.flatMap_append, List.append_assoc,
      scanString_written (written_escapeChar c), ih]
    rfl

/-- What is between the quotes is the string, once it is unescaped. -/
theorem unescape_raw (s : String) : unescape (raw s) = some (toUtf8 s) := by
  rw [toUtf8_eq_flatMap]
  unfold raw
  induction s.toList with
  | nil => rfl
  | cons c cs ih =>
    rw [List.flatMap_cons, List.flatMap_append, unescape_written (written_escapeChar c), ih]
    rfl

/-- Every string is read back from what is written for it. -/
theorem text?_raw (s : String) : text? (raw s) = some s := by
  rw [text?, unescape_raw, Option.bind_some, ofUtf8?_toUtf8]

end WorkDispatch.Json
