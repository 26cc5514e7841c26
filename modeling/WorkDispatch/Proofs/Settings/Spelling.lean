import WorkDispatch.Proofs.Settings.Variables
import WorkDispatch.Proofs.Text.Decimal

/-!
# What comes back of a text that reads as a value

The text of a variable is stored as a truth value, a whole number or a number where it reads as one, and a
setting that is a text is that value written out. So a text comes back as it was if it reads as no value,
or if it is spelled as the value is written; `Kept` lists the ways, and `text?_ofText_iff` says that there
are no others. Needless zeros, a plus, an exponent and the capitals of a truth value do not come back.
-/

set_option autoImplicit false

namespace WorkDispatch.Settings

open Layer Text

/-! ## Whole numbers as they are written -/

/-- The characters that whole numbers are written with. -/
def numerals : List Char := ['-', '0', '1', '2', '3', '4', '5', '6', '7', '8', '9']

/-- Numerals stay as they are in lower case. -/
theorem numerals_small : ∀ c ∈ numerals, c ≠ '\u0130' ∧ c ≠ 'Σ' ∧ lowerChar c = c := by
  have all : numerals.all (fun c => c ≠ '\u0130' ∧ c ≠ 'Σ' ∧ lowerChar c = c) = true := by
    decide +kernel
  exact fun c hc => of_decide_eq_true (List.all_eq_true.mp all c hc)

/-- Digits are numerals. -/
theorem mem_numerals_of_isDigit {c : Char} (h : c.isDigit = true) : c ∈ numerals := by
  have all : ∀ n ≤ 57, 48 ≤ n → Char.ofNat n ∈ numerals := by decide
  obtain ⟨least, most⟩ := isDigit_range h
  rw [← Char.ofNat_toNat c]
  exact all c.toNat most least

/-- An integer is written with its sign and its digits. -/
theorem toList_toString (n : Int) :
    (toString n).toList = (if n < 0 then ['-'] else []) ++ Nat.toDigits 10 n.natAbs := by
  cases n with
  | ofNat m => exact Nat.toList_repr
  | negSucc m =>
    have sign : Int.negSucc m < 0 := Int.negSucc_lt_zero m
    rw [if_pos sign]
    show ("-" ++ (m + 1).repr).toList = _
    rw [String.toList_append, Nat.toList_repr]
    rfl

theorem isDigit_of_mem_toDigits {c : Char} {m : Nat} (h : c ∈ Nat.toDigits 10 m) : c.isDigit = true :=
  Nat.isDigit_of_mem_toDigits (by decide) (by decide) h

/-- It is written in numerals. -/
theorem mem_numerals_of_mem_toString {n : Int} {c : Char} (h : c ∈ (toString n).toList) :
    c ∈ numerals := by
  rw [toList_toString] at h
  rcases List.mem_append.mp h with sign | digit
  · split at sign
    · rw [List.mem_singleton.mp sign]
      exact List.mem_cons_self
    · cases sign
  · exact mem_numerals_of_isDigit (isDigit_of_mem_toDigits digit)

/-- A whole number is written without capitals. -/
theorem lower_toString (n : Int) : lower (toString n) = toString n := by
  have small : lowerAfter [] (toString n).toList = (toString n).toList :=
    lowerAfter_of_small (fun c hc => numerals_small c (mem_numerals_of_mem_toString hc)) []
  rw [lower, small, String.ofList_toList]

/-- A whole number is read back from how it is written. -/
theorem intOfText?_toString {lo hi n : Int} (fits : lo ≤ n ∧ n ≤ hi) :
    intOfText? lo hi (toString n) = some n := by
  have digits : Nat.toDigits 10 n.natAbs ≠ [] ∧ (Nat.toDigits 10 n.natAbs).all Char.isDigit = true :=
    ⟨Nat.toDigits_ne_nil, List.all_eq_true.mpr fun c hc => isDigit_of_mem_toDigits hc⟩
  have value : ofDigits (Nat.toDigits 10 n.natAbs) = n.natAbs := by
    rw [ofDigits_eq, Nat.ofDigitChars_ten_toDigits]
  unfold intOfText?
  rw [toList_toString]
  by_cases sign : n < 0
  · have same : -(n.natAbs : Int) = n := by omega
    simp only [if_pos sign, List.singleton_append, value, same, if_true]
    rw [if_pos ⟨digits.1, digits.2, fits⟩]
  · have same : (n.natAbs : Int) = n := by omega
    rw [if_neg sign, List.nil_append]
    obtain ⟨c, cs, shape⟩ := List.exists_cons_of_ne_nil digits.1
    have first : c.isDigit = true := List.all_eq_true.mp digits.2 c (shape ▸ List.mem_cons_self)
    rw [shape] at digits value ⊢
    -- A number without a sign must not be taken for one with a sign.
    have minus : c ≠ '-' := by
      rintro rfl
      cases first
    have plus : c ≠ '+' := by
      rintro rfl
      cases first
    simp only [List.cons.injEq, minus, plus, false_and, imp_self, implies_true, Bool.false_eq_true,
      if_false, value, same]
    rw [if_pos ⟨digits.1, digits.2, fits⟩]

/-- What is read as an integer lies within its bounds. -/
theorem bounds_of_intOfText? {lo hi n : Int} {s : String} (h : intOfText? lo hi s = some n) :
    lo ≤ n ∧ n ≤ hi := by
  unfold intOfText? at h
  obtain ⟨fits, value⟩ := Option.ite_none_right_eq_some.mp h
  cases value
  exact fits.2.2

/-! ## What a text is stored as -/

variable {v : String}

/-- The text reads as a truth value, in letters of any case. -/
def IsTruthValue (v : String) : Prop := lower v = "true" ∨ lower v = "false"

instance (v : String) : Decidable (IsTruthValue v) :=
  inferInstanceAs (Decidable (lower v = "true" ∨ lower v = "false"))

/-- The whole number of 64 bits that a text reads as. -/
def wide? (v : String) : Option Int := intOfText? (-Bits.count63) (Bits.count63 - 1) v

/-- A truth value as it is written. -/
def truthText (b : Bool) : String := if b then "true" else "false"

/-- A word for a truth value stands for one. -/
theorem exists_truth (h : IsTruthValue v) : ∃ b, lower v = truthText b := by
  rcases h with yes | no
  · exact ⟨true, yes⟩
  · exact ⟨false, no⟩

/-- It is read as that one. -/
theorem ofText_of_truth {b : Bool} (h : lower v = truthText b) : ofText v = bool b := by
  have apart : ¬ "false" = "true" := by decide
  unfold ofText
  rw [h]
  cases b with
  | true => exact if_pos rfl
  | false => exact (if_neg apart).trans (if_pos rfl)

/-- A text that is no truth value is a whole number, or else a number, or else a text. -/
theorem ofText_of_not_truth (word : ¬ IsTruthValue v) :
    ofText v = match wide? v with
      | some n => integer n
      | none => match floatOfText? v with
        | some x => float x
        | none => string v := by
  obtain ⟨notTrue, notFalse⟩ := not_or.mp word
  unfold ofText
  rw [if_neg notTrue, if_neg notFalse]
  rfl

/-- No integer is a word for a truth value. -/
theorem not_isTruthValue_toString (n : Int) : ¬ IsTruthValue (toString n) := by
  have unlike : ∀ b, toString n ≠ truthText b := by
    intro b same
    have letter : 'e' ∈ (toString n).toList := by
      rw [same]
      cases b with
      | true | false => decide
    exact absurd (mem_numerals_of_mem_toString letter) (by decide)
  intro truth
  obtain ⟨b, same⟩ := exists_truth truth
  exact unlike b ((lower_toString n).symm.trans same)

/-! ## Texts that come back -/

/-- The text comes back as it was from what a variable stores it as. -/
inductive Kept : String → Prop
  | truth (b : Bool) : Kept (truthText b)
  | whole (n : Int) (fits : -Bits.count63 ≤ n ∧ n ≤ Bits.count63 - 1) : Kept (toString n)
  /-- A number is written with the fewest digits that read back, and without an exponent. -/
  | number {v : String} {x : Float} (word : ¬ IsTruthValue v) (broken : wide? v = none)
    (reads : floatOfText? v = some x) (written : Binary64.text x = v) : Kept v
  | text {v : String} (word : ¬ IsTruthValue v) (broken : wide? v = none)
    (unread : floatOfText? v = none) : Kept v

/-- A text comes back in these ways, and in no other. -/
theorem text?_ofText_iff (v : String) : text? (ofText v) = some v ↔ Kept v := by
  constructor
  · intro back
    -- In the order in which the reader tries them: a truth value, a whole number, a number, and
    -- what is left is text.
    by_cases word : IsTruthValue v
    · obtain ⟨b, same⟩ := exists_truth word
      rw [ofText_of_truth same] at back
      cases back
      exact .truth b
    · rw [ofText_of_not_truth word] at back
      cases broken : wide? v with
      | some n =>
        rw [broken] at back
        cases back
        exact .whole n (bounds_of_intOfText? broken)
      | none =>
        cases reads : floatOfText? v with
        | some x =>
          rw [broken, reads] at back
          exact .number word broken reads (Option.some.inj back)
        | none => exact .text word broken reads
  · intro kept
    cases kept with
    | truth b =>
      have lowered : lower (truthText b) = truthText b := by
        cases b with
        | true | false => decide +kernel
      rw [ofText_of_truth lowered]
      rfl
    | whole n fits =>
      have reads : wide? (toString n) = some n := intOfText?_toString fits
      rw [ofText_of_not_truth (not_isTruthValue_toString n), reads]
      rfl
    | number word broken reads written =>
      rw [ofText_of_not_truth word, broken, reads]
      exact congrArg some written
    | text word broken unread =>
      rw [ofText_of_not_truth word, broken, unread]
      rfl

end WorkDispatch.Settings
