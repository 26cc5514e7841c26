import Mathlib.Data.List.Basic
import WorkDispatch.Json.Scanner
import WorkDispatch.Json.Writer
import WorkDispatch.Proofs.Text.Decimal
import WorkDispatch.Proofs.Text.Utf8

/-!
# Numbers are read as they were written

A number is written with its digits alone, after a sign and before an exponent where it has them.
Its digits are those of a count, so no zero stands in front of others, and the scanner takes all of
them when what follows does not go on with the number: `scanNumber_write`.
-/

set_option autoImplicit false

namespace WorkDispatch.Json

open Text

/-! ## Digits -/

/-- The digits of a count, as bytes. -/
def figures (n : Nat) : Bytes := (Nat.toDigits 10 n).map fun c => UInt8.ofNat c.toNat

/-- The digits of a number lie in their range. -/
theorem mem_toDigits_range {n : Nat} {c : Char} (h : c ∈ Nat.toDigits 10 n) :
    48 ≤ c.toNat ∧ c.toNat ≤ 57 :=
  isDigit_range (Nat.isDigit_of_mem_toDigits (by decide) (by decide) h)

theorem toNat_ofNat_digit {c : Char} (h : 48 ≤ c.toNat ∧ c.toNat ≤ 57) :
    (UInt8.ofNat c.toNat).toNat = c.toNat := by
  rw [UInt8.toNat_ofNat']
  omega

/-- A count is written in its figures. -/
theorem toUtf8_toString (n : Nat) : toUtf8 (toString n) = figures n := by
  rw [toUtf8_eq_flatMap, Nat.toString_eq_repr, Nat.toList_repr, figures, List.map_eq_flatMap]
  refine List.flatMap_congr fun c h => utf8EncodeChar_of_lt ?_
  have range := mem_toDigits_range h
  omega

/-- Figures are digits. -/
theorem isDigit_of_mem_figures {n : Nat} {b : UInt8} (h : b ∈ figures n) : isDigit b = true := by
  obtain ⟨c, hc, rfl⟩ := List.mem_map.1 h
  have range := mem_toDigits_range hc
  rw [isDigit, Bool.and_eq_true, decide_eq_true_iff, decide_eq_true_iff, UInt8.le_iff_toNat_le,
    UInt8.le_iff_toNat_le, toNat_ofNat_digit range]
  exact range

/-- The digits of a count are read as the count. -/
theorem digitsValue_figures (n : Nat) : digitsValue (figures n) = n := by
  have read : ∀ (cs : List Char) (k : Nat), (∀ c ∈ cs, 48 ≤ c.toNat ∧ c.toNat ≤ 57) →
      (cs.map fun c => UInt8.ofNat c.toNat).foldl (fun n b => n * 10 + (b.toNat - 0x30)) k =
        Nat.ofDigitChars 10 cs k := by
    intro cs
    induction cs with
    | nil => exact fun k _ => Nat.ofDigitChars_nil.symm
    | cons c cs ih =>
      intro k range
      rw [List.map_cons, List.foldl_cons, toNat_ofNat_digit (range c List.mem_cons_self),
        Nat.ofDigitChars_cons, Nat.mul_comm k 10]
      exact ih _ fun d h => range d (List.mem_cons_of_mem _ h)
  rw [digitsValue, figures, read _ 0 fun c h => mem_toDigits_range h, Nat.ofDigitChars_ten_toDigits]

/-- There is one at least. -/
theorem exists_figures (n : Nat) : ∃ b bs, figures n = b :: bs ∧ isDigit b = true := by
  cases h : figures n with
  | nil => exact absurd (List.map_eq_nil_iff.1 h) Nat.toDigits_ne_nil
  | cons b bs => exact ⟨b, bs, rfl, isDigit_of_mem_figures (by rw [h]; exact List.mem_cons_self)⟩

/-- Only the digits of zero begin with one. -/
theorem head?_toDigits {n : Nat} (h : n ≠ 0) : (Nat.toDigits 10 n).head? ≠ some '0' := by
  induction n using Nat.strongRecOn with
  | ind n ih =>
    by_cases few : n < 10
    · have digits : ∀ k < 10, k ≠ 0 → [k.digitChar].head? ≠ some '0' := by decide
      rw [Nat.toDigits_of_lt_base few]
      exact digits n few h
    · have front := ih (n / 10) (by omega) (by omega)
      rw [Nat.toDigits_of_base_le (by decide) (Nat.not_lt.1 few), List.head?_append]
      cases digits : Nat.toDigits 10 (n / 10) with
      | nil => exact absurd digits Nat.toDigits_ne_nil
      | cons c cs =>
        rw [digits] at front
        exact front

/-- No zero stands in front of other digits. -/
theorem figures_leading (n : Nat) :
    ¬ (figures n = [] ∨ ((figures n).length ≠ 1 ∧ (figures n).head? = some 0x30)) := by
  rintro (none | ⟨several, zero⟩)
  · obtain ⟨b, bs, some, -⟩ := exists_figures n
    rw [none] at some
    cases some
  · by_cases h : n = 0
    · rw [h] at several
      exact several rfl
    · rw [figures, List.head?_map, Option.map_eq_some_iff] at zero
      obtain ⟨c, front, number⟩ := zero
      have range := mem_toDigits_range (List.mem_of_mem_head? front)
      have same : c = '0' := by
        rw [← Char.toNat_inj, ← toNat_ofNat_digit range, number]
        rfl
      rw [same] at front
      exact head?_toDigits h front

/-! ## Scanning -/

/-- The bytes do not go on with a number. -/
def Ends (bs : Bytes) : Prop := ∀ b ∈ bs.head?, isDigit b = false ∧ b ≠ 0x2E ∧ b ≠ 0x65 ∧ b ≠ 0x45

/-- A number ends where the text does. -/
theorem ends_nil : Ends [] := fun _ h => nomatch h

/-- It ends before what cannot go on with it. -/
theorem ends_cons {b : UInt8} (h : isDigit b = false ∧ b ≠ 0x2E ∧ b ≠ 0x65 ∧ b ≠ 0x45)
    (bs : Bytes) : Ends (b :: bs) := by
  intro c hc
  cases hc
  exact h

/-- The bytes of a sign. -/
def sign (negative : Bool) : Bytes := if negative then [0x2D] else []

/-- The digits of a count stand in front, and what follows is none. -/
structure Front (bs : Bytes) (n : Nat) (rest : Bytes) : Prop where
  head : ∃ b tail, bs = b :: tail ∧ isDigit b = true
  run : bs.takeWhile isDigit = figures n
  after : bs.dropWhile isDigit = rest

/-- Figures are the front of what they stand before. -/
theorem front_figures (n : Nat) {rest : Bytes} (stops : ∀ b ∈ rest.head?, isDigit b = false) :
    Front (figures n ++ rest) n rest := by
  obtain ⟨run, after⟩ := takeWhile_append_stops (fun _ h => isDigit_of_mem_figures (n := n) h) stops
  obtain ⟨b, bs, digits, digit⟩ := exists_figures n
  exact ⟨⟨b, bs ++ rest, by rw [digits, List.cons_append], digit⟩, run, after⟩

theorem ne_of_isDigit {b c : UInt8} (h : isDigit b = true) (hc : isDigit c = false) : b ≠ c := by
  rintro rfl
  rw [h] at hc
  cases hc

/-- A whole number is scanned up to where it ends. -/
theorem scanNumber_whole (negative : Bool) {n : Nat} {bs rest : Bytes} (front : Front bs n rest)
    (ends : Ends rest) (signed : negative = true → n ≠ 0) :
    scanNumber (sign negative ++ bs) =
      some (.integer (if negative = true then -(n : Int) else n), rest) := by
  obtain ⟨⟨b, tail, rfl, digit⟩, run, after⟩ := front
  have minus : b ≠ 0x2D := ne_of_isDigit digit rfl
  have leading := figures_leading n
  have value := digitsValue_figures n
  cases rest with
  | nil =>
    cases negative with
    | true => simp [scanNumber, sign, run, after, leading, value, signed rfl]
    | false => simp [scanNumber, sign, run, after, leading, value, minus]
  | cons c cs =>
    obtain ⟨-, point, small, big⟩ := ends c rfl
    cases negative with
    | true => simp [scanNumber, sign, run, after, leading, value, signed rfl, point, small, big]
    | false => simp [scanNumber, sign, run, after, leading, value, minus, point, small, big]

/-- A number with an exponent is scanned up to where the exponent ends. -/
theorem scanNumber_power (negative low : Bool) {n k : Nat} {bs es rest : Bytes}
    (front : Front bs n (0x65 :: (sign low ++ es))) (power : Front es k rest) :
    scanNumber (sign negative ++ bs) =
      some (.decimal negative n (if low = true then -(k : Int) else k), rest) := by
  obtain ⟨⟨b, tail, rfl, digit⟩, run, after⟩ := front
  obtain ⟨⟨d, digits, rfl, digit'⟩, run', after'⟩ := power
  have minus : b ≠ 0x2D := ne_of_isDigit digit rfl
  have minus' : d ≠ 0x2D := ne_of_isDigit digit' rfl
  have plus : d ≠ 0x2B := ne_of_isDigit digit' rfl
  have leading := figures_leading n
  have some : figures k ≠ [] := fun h => figures_leading k (.inl h)
  have value := digitsValue_figures n
  have value' := digitsValue_figures k
  cases negative with
  | true =>
    cases low with
    | true => simp [scanNumber, sign, run, after, leading, value, run', after', some, value']
    | false =>
      simp [scanNumber, sign, run, after, leading, value, run', after', some, value', minus', plus]
  | false =>
    cases low with
    | true => simp [scanNumber, sign, run, after, leading, value, run', after', some, value', minus]
    | false =>
      simp [scanNumber, sign, run, after, leading, value, run', after', some, value', minus, minus',
        plus]

/-! ## Written numbers -/

/-- A sign stands in front of what is below zero. -/
theorem toUtf8_toString_int (n : Int) :
    toUtf8 (toString n) = sign (decide (n < 0)) ++ figures n.natAbs := by
  cases n with
  | ofNat n => exact toUtf8_toString n
  | negSucc n =>
    have text : toString (Int.negSucc n) = "-" ++ toString (n + 1) := rfl
    have below : decide (Int.negSucc n < 0) = true := decide_eq_true (Int.negSucc_lt_zero n)
    rw [text, toUtf8_append, toUtf8_toString, below]
    rfl

/-- A number is its absolute value with its sign. -/
theorem signed_natAbs (n : Int) :
    (if decide (n < 0) = true then -(n.natAbs : Int) else (n.natAbs : Int)) = n := by
  by_cases negative : n < 0
  · rw [if_pos (decide_eq_true negative)]
    omega
  · rw [if_neg (by rw [decide_eq_true_iff]; exact negative)]
    omega

/-- A decimal is written as its digits and an exponent. -/
theorem toUtf8_decimal (negative : Bool) (digits : Nat) (exponent : Int) :
    toUtf8 (Number.decimal negative digits exponent).write = sign negative ++ (figures digits ++
      0x65 :: (sign (decide (exponent < 0)) ++ figures exponent.natAbs)) := by
  have front : toUtf8 (if negative = true then "-" else "") = sign negative := by
    cases negative with
    | true => rfl
    | false => rfl
  have mark : toUtf8 "e" = [0x65] := rfl
  simp only [Number.write, toUtf8_append, toUtf8_toString, toUtf8_toString_int, front, mark,
    List.append_assoc, List.cons_append, List.nil_append]

/-- A number is scanned up to where it ends. -/
theorem scanNumber_write (n : Number) {rest : Bytes} (ends : Ends rest) :
    scanNumber (toUtf8 n.write ++ rest) = some (n, rest) := by
  have stops : ∀ b ∈ rest.head?, isDigit b = false := fun b h => (ends b h).1
  cases n with
  | integer n =>
    show scanNumber (toUtf8 (toString n) ++ rest) = _
    rw [toUtf8_toString_int, List.append_assoc,
      scanNumber_whole _ (front_figures _ stops) ends fun h => ?_, signed_natAbs]
    rw [decide_eq_true_iff] at h
    omega
  | decimal negative digits exponent =>
    have mark : ∀ bs, ∀ b ∈ (0x65 :: bs : Bytes).head?, isDigit b = false := by
      intro bs b h
      cases h
      rfl
    rw [toUtf8_decimal, List.append_assoc, List.append_assoc, List.cons_append, List.append_assoc,
      scanNumber_power negative _ (front_figures digits (mark _)) (front_figures _ stops),
      signed_natAbs]

/-- A number begins with a digit or a sign. -/
theorem number_head (n : Number) :
    ∃ b bs, toUtf8 n.write = b :: bs ∧ (isDigit b = true ∨ b = 0x2D) := by
  have front : ∃ negative count rest,
      toUtf8 n.write = sign negative ++ (figures count ++ rest) := by
    cases n with
    | integer n => exact ⟨_, _, [], by rw [List.append_nil]; exact toUtf8_toString_int n⟩
    | decimal negative digits exponent => exact ⟨_, _, _, toUtf8_decimal negative digits exponent⟩
  obtain ⟨negative, count, rest, bytes⟩ := front
  obtain ⟨b, bs, digits, digit⟩ := exists_figures count
  rw [bytes]
  cases negative with
  | true => exact ⟨0x2D, _, rfl, .inr rfl⟩
  | false => exact ⟨b, bs ++ rest, by rw [digits]; rfl, .inl digit⟩

end WorkDispatch.Json
