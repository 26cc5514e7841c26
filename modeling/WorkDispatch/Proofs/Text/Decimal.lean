import Mathlib.Algebra.Group.Nat.Defs
import WorkDispatch.Text.Blank
import WorkDispatch.Text.Decimal

/-!
# Numbers are read as they were written

The digits of a number spell it, with any number of zeros in front. `digits?_append` says that a run
of digits is read from the front of a text, when no other digit follows it and it is as long as is
asked for; `digits?_padded` is what this means for a number that was padded to a width.
-/

set_option autoImplicit false

namespace WorkDispatch.Text

/-- The text does not begin with a digit, so that a number in front of it ends there. -/
def Stops (cs : List Char) : Prop := ∀ c ∈ cs.head?, c.isDigit = false

/-- A run of digits stops before what is none. -/
theorem stops_cons {c : Char} (h : c.isDigit = false) (cs : List Char) : Stops (c :: cs) := by
  intro d hd
  cases hd
  exact h

/-! ## Digits -/

/-- Digits lie in their range. -/
theorem isDigit_range {c : Char} (h : c.isDigit = true) : 48 ≤ c.toNat ∧ c.toNat ≤ 57 := by
  rw [Char.isDigit, Bool.and_eq_true, decide_eq_true_iff, decide_eq_true_iff] at h
  exact ⟨h.1, h.2⟩

/-- The value of digits is the library's. -/
theorem ofDigits_eq (cs : List Char) : ofDigits cs = Nat.ofDigitChars 10 cs 0 := by
  have step : (fun (n : Nat) (c : Char) => n * 10 + digitValue c) =
      fun n c => 10 * n + (c.toNat - '0'.toNat) := by
    funext n c
    rw [Nat.mul_comm]
    rfl
  rw [ofDigits, step, Nat.ofDigitChars_eq_foldl]

/-- A padded number is written with leading zeros. -/
theorem toList_padded (width n : Nat) :
    (padded width n).toList =
      List.replicate (width - (Nat.toDigits 10 n).length) '0' ++ Nat.toDigits 10 n := by
  have size : n.repr.length = (Nat.toDigits 10 n).length := by
    rw [← String.length_toList, Nat.toList_repr]
  simp only [padded, String.toList_append, String.toList_ofList, Nat.toString_eq_repr, size,
    Nat.toList_repr]

/-- A padded number is all digits. -/
theorem isDigit_of_mem_padded {width n : Nat} {c : Char} (h : c ∈ (padded width n).toList) :
    c.isDigit = true := by
  rw [toList_padded] at h
  rcases List.mem_append.1 h with h | h
  · rw [(List.mem_replicate.1 h).2]
    rfl
  · exact Nat.isDigit_of_mem_toDigits (by decide) (by decide) h

/-- Zeros in front do not matter. -/
theorem ofDigits_padded (width n : Nat) : ofDigits (padded width n).toList = n := by
  rw [ofDigits_eq, toList_padded, Nat.ofDigitChars_append, Nat.ofDigitChars_replicate_zero,
    Nat.mul_zero, Nat.ofDigitChars_ten_toDigits]

/-- It has its width, unless it needs more. -/
theorem length_padded {width n : Nat} (h : n < 10 ^ width) (pos : 0 < width) :
    (padded width n).toList.length = width := by
  have size := (Nat.length_toDigits_le_iff (b := 10) (by decide) pos).2 h
  rw [toList_padded, List.length_append, List.length_replicate]
  omega

/-- It has one digit at least. -/
theorem length_padded_pos (width n : Nat) : 0 < (padded width n).toList.length := by
  have pos : 0 < (Nat.toDigits 10 n).length := Nat.length_toDigits_pos
  rw [toList_padded, List.length_append]
  omega

/-! ## Runs -/

/-- A run ends where the list goes on with something that is not of its kind. -/
theorem takeWhile_append_stops {α : Type} {p : α → Bool} {as rest : List α}
    (all : ∀ a ∈ as, p a = true) (stops : ∀ a ∈ rest.head?, p a = false) :
    (as ++ rest).takeWhile p = as ∧ (as ++ rest).dropWhile p = rest := by
  have stuck : rest.takeWhile p = [] ∧ rest.dropWhile p = rest := by
    cases rest with
    | nil => exact ⟨rfl, rfl⟩
    | cons a rest =>
      have h := stops a rfl
      simp only [List.takeWhile_cons, List.dropWhile_cons, h, Bool.false_eq_true, if_false, and_self]
  rw [List.takeWhile_append_of_pos all, List.dropWhile_append_of_pos all, stuck.1, stuck.2,
    List.append_nil]
  exact ⟨rfl, rfl⟩

/-- A run of digits is what stands before it stops. -/
theorem digitRun_append_stops {ds rest : List Char} (digits : ∀ c ∈ ds, c.isDigit = true)
    (stops : Stops rest) : digitRun (ds ++ rest) = (ds, rest) := by
  obtain ⟨run, after⟩ := takeWhile_append_stops digits stops
  rw [digitRun, run, after]

/-- A run of digits is read from the front of a text that goes on with something else. -/
theorem digits?_append {ds rest : List Char} {least : Nat} {most : Option Nat}
    (digits : ∀ c ∈ ds, c.isDigit = true) (stops : Stops rest) (enough : least ≤ ds.length)
    (few : ∀ m ∈ most, ds.length ≤ m) :
    digits? least most (ds ++ rest) = some (ofDigits ds, rest) := by
  unfold digits?
  simp only [digitRun_append_stops digits stops]
  cases most with
  | none =>
    show (if ds.length < least then none else _) = _
    rw [if_neg (Nat.not_lt.2 enough), List.drop_left]
  | some m =>
    have used : ds.take m = ds := List.take_of_length_le (few m rfl)
    simp only [used]
    rw [if_neg (Nat.not_lt.2 enough), List.drop_left]

/-- A number that was padded to a width is read back. -/
theorem digits?_padded (width n : Nat) (most : Option Nat) {rest : List Char}
    (stops : Stops rest) (few : ∀ m ∈ most, (padded width n).toList.length ≤ m) :
    digits? 1 most ((padded width n).toList ++ rest) = some (n, rest) := by
  rw [digits?_append (fun _ h => isDigit_of_mem_padded h) stops (length_padded_pos width n) few,
    ofDigits_padded]

/-- A number that has no more digits than its width is read back where that many may stand. -/
theorem digits?_padded_some {width n : Nat} {rest : List Char} (stops : Stops rest)
    (h : n < 10 ^ width) (pos : 0 < width) {most : Nat} (few : width ≤ most) :
    digits? 1 (some most) ((padded width n).toList ++ rest) = some (n, rest) := by
  refine digits?_padded width n (some most) stops fun m hm => ?_
  cases hm
  rw [length_padded h pos]
  exact few

/-! ## Blanks -/

/-- No digit is blank. -/
theorem isBlank_of_isDigit {c : Char} (h : c.isDigit = true) : isBlank c = false := by
  have range := isDigit_range h
  cases hb : isBlank c with
  | false => rfl
  | true =>
    simp only [isBlank, blankRanges, List.any_cons, List.any_nil, Bool.or_false, Bool.or_eq_true,
      Bool.and_eq_true, decide_eq_true_eq] at hb
    omega

/-- What is not blank is not skipped. -/
theorem skipBlanks_of_head {c : Char} (h : isBlank c = false) (cs : List Char) :
    skipBlanks (c :: cs) = c :: cs := by
  rw [skipBlanks, List.dropWhile_cons, if_neg (by rw [h]; exact Bool.false_ne_true)]

/-- No blanks stand in front of a number. -/
theorem skipBlanks_padded (width n : Nat) (rest : List Char) :
    skipBlanks ((padded width n).toList ++ rest) = (padded width n).toList ++ rest := by
  obtain ⟨c, cs, hc⟩ := List.exists_cons_of_length_pos (length_padded_pos width n)
  have digit : c.isDigit = true := isDigit_of_mem_padded (by rw [hc]; exact List.mem_cons_self)
  rw [hc, List.cons_append, skipBlanks_of_head (isBlank_of_isDigit digit)]

end WorkDispatch.Text
