import WorkDispatch.Proofs.Text.Decimal
import WorkDispatch.Proofs.Time.Calendar
import WorkDispatch.Time.Rfc3339

/-!
# Points in time are read as they were written

`read?_text` says that every point in time is read back from its text: also one of a year that is
written with a sign, one that does not lie on a full second, and one in a leap second. The parts of
the text are numbers that are read to their ends, because a mark that is no digit follows each.
-/

set_option autoImplicit false

namespace WorkDispatch

open Text

namespace Instant

/-! ## Parts of a text -/

/-- A year is read back, with or without its sign. -/
theorem year?_yearText (y : Int) {rest : List Char} (stops : Stops rest) :
    year? ((Date.yearText y).toList ++ rest) = some (y, rest) := by
  unfold Date.yearText
  by_cases plain : 0 ≤ y ∧ y ≤ 9999
  · have read : digits? 1 (some 4) ((padded 4 y.toNat).toList ++ rest) = some (y.toNat, rest) :=
      digits?_padded_some stops (by omega) (by decide) (by decide)
    rw [if_pos plain]
    unfold year?
    rw [skipBlanks_padded]
    obtain ⟨c, cs, hc⟩ := List.exists_cons_of_length_pos (length_padded_pos 4 y.toNat)
    have digit : c.isDigit = true := isDigit_of_mem_padded (by rw [hc]; exact List.mem_cons_self)
    rw [hc, List.cons_append] at read ⊢
    split
    · next h =>
      cases h
      exact absurd digit (by decide)
    · next h =>
      cases h
      exact absurd digit (by decide)
    · rw [read]
      show some ((y.toNat : Int), rest) = _
      rw [Int.toNat_of_nonneg plain.1]
  · have read := digits?_padded 4 y.natAbs none stops fun _ h => nomatch h
    rw [if_neg plain]
    by_cases negative : y < 0
    · rw [if_pos negative, String.toList_append]
      show year? ('-' :: ((padded 4 y.natAbs).toList ++ rest)) = _
      unfold year?
      rw [skipBlanks_of_head (by decide)]
      simp only [read, Option.map_some]
      rw [show -(y.natAbs : Int) = y by omega]
    · rw [if_neg negative, String.toList_append]
      show year? ('+' :: ((padded 4 y.natAbs).toList ++ rest)) = _
      unfold year?
      rw [skipBlanks_of_head (by decide)]
      simp only [read, Option.map_some]
      rw [show (y.natAbs : Int) = y by omega]

/-- Two digits are read up to the next mark. -/
theorem twoDigits?_padded {lo hi n : Nat} {rest : List Char} (stops : Stops rest) (least : lo ≤ n)
    (most : n ≤ hi) (two : n < 100) :
    twoDigits? lo hi ((padded 2 n).toList ++ rest) = some (n, rest) := by
  have read : digits? 1 (some 2) ((padded 2 n).toList ++ rest) = some (n, rest) :=
    digits?_padded_some stops two (by decide) (by decide)
  unfold twoDigits?
  rw [skipBlanks_padded, read]
  simp only [Option.bind_eq_bind, Option.bind_some]
  rw [if_pos ⟨least, most⟩]

/-- A mark is read. -/
theorem mark?_cons {c : Char} (h : isBlank c = false) (rest : List Char) :
    mark? c (c :: rest) = some rest := by
  unfold mark?
  rw [skipBlanks_of_head h]
  exact if_pos rfl

/-- Places are read as the nanoseconds that they are worth. -/
theorem fraction?_places (width : Nat) {n : Nat} {rest : List Char} (stops : Stops rest)
    (h : n < 10 ^ width) (pos : 0 < width) (few : width ≤ 9) :
    fraction? ('.' :: ((padded width n).toList ++ rest)) = some (n * 10 ^ (9 - width), rest) := by
  have run : digitRun ((padded width n).toList ++ rest) = ((padded width n).toList, rest) :=
    digitRun_append_stops (fun _ hc => isDigit_of_mem_padded hc) stops
  simp only [fraction?, digits?_padded_some stops h pos few, run, List.drop_left,
    Option.bind_eq_bind, Option.bind_some]
  rw [length_padded h pos]
  rfl

/-- The places that are written for the nanoseconds beyond a full second. -/
def placesText (n : Nat) : String :=
  if n = 0 then ""
  else if n % 1000000 = 0 then "." ++ padded 3 (n / 1000000)
  else if n % 1000 = 0 then "." ++ padded 6 (n / 1000)
  else "." ++ padded 9 n

/-- The places that are written are enough for the nanoseconds. -/
theorem fraction?_placesText {n : Nat} (h : n < 1000000000) (rest : List Char) :
    fraction? ((placesText n).toList ++ 'Z' :: rest) = some (n, 'Z' :: rest) := by
  have stops : Stops ('Z' :: rest) := stops_cons (by decide) rest
  unfold placesText
  split
  · next none => rw [none]; rfl
  · split
    · next milli =>
      rw [String.toList_append]
      refine (fraction?_places 3 stops (by omega) (by decide) (by decide)).trans ?_
      rw [show n / 1000000 * 10 ^ (9 - 3) = n by omega]
    · split
      · next micro =>
        rw [String.toList_append]
        refine (fraction?_places 6 stops (by omega) (by decide) (by decide)).trans ?_
        rw [show n / 1000 * 10 ^ (9 - 6) = n by omega]
      · rw [String.toList_append]
        refine (fraction?_places 9 stops (by omega) (by decide) (by decide)).trans ?_
        rw [show n * 10 ^ (9 - 9) = n by omega]

/-- The places begin with a point, and what stands for none of them is no digit either. -/
theorem stops_placesText (n : Nat) (rest : List Char) :
    Stops ((placesText n).toList ++ 'Z' :: rest) := by
  unfold placesText
  split
  · exact stops_cons (by decide) rest
  · split
    · rw [String.toList_append]
      exact stops_cons (by decide) _
    · split
      · rw [String.toList_append]
        exact stops_cons (by decide) _
      · rw [String.toList_append]
        exact stops_cons (by decide) _

/-! ## Whole texts -/

/-- The text of a date and a second of its day, a leap second being second 60. -/
def partsText (d : Date) (h m s n : Nat) : String :=
  d.text ++ "T" ++ (padded 2 h ++ ":" ++ padded 2 m ++ ":" ++ padded 2 s ++ placesText n) ++ "Z"

/-- A point in time is written with its parts and the marks between them. -/
theorem toList_partsText (d : Date) (h m s n : Nat) :
    (partsText d h m s n).toList = (Date.yearText d.year).toList ++ '-' ::
      ((padded 2 d.month).toList ++ '-' :: ((padded 2 d.day).toList ++ 'T' ::
        ((padded 2 h).toList ++ ':' :: ((padded 2 m).toList ++ ':' ::
          ((padded 2 s).toList ++ ((placesText n).toList ++ ['Z'])))))) := by
  have dash : "-".toList = ['-'] := rfl
  have colon : ":".toList = [':'] := rfl
  have tee : "T".toList = ['T'] := rfl
  have zone : "Z".toList = ['Z'] := rfl
  simp only [partsText, Date.text, String.toList_append, List.append_assoc, dash, colon, tee, zone,
    List.cons_append, List.nil_append]

/-- The parts of a text are read one after the other. -/
theorem readChars?_partsText {d : Date} {h m s n : Nat} (exist : d.exists? = true)
    (year : -262143 ≤ d.year ∧ d.year ≤ 262142) (hh : h ≤ 23) (hm : m ≤ 59) (hs : s ≤ 60)
    (hn : n < 1000000000) :
    readChars? (partsText d h m s n).toList =
      ofUnix? (d.toDays * 86400 + (h * 3600 + m * 60 + (if s = 60 then 59 else s) : Nat))
        (if s = 60 then n + 1000000000 else n) := by
  have calendar : (1 ≤ d.month ∧ d.month ≤ 12) ∧ 1 ≤ d.day ∧ d.day ≤ 31 := by
    simp only [Date.exists?, Bool.and_eq_true, decide_eq_true_eq] at exist
    have longest : Date.daysInMonth d.year d.month ≤ 31 := by
      unfold Date.daysInMonth
      split
      · split
        · decide
        · decide
      · split
        · decide
        · decide
    omega
  obtain ⟨month, day⟩ := calendar
  have dash : ∀ cs, Stops ('-' :: cs) := fun cs => stops_cons (by decide) cs
  have colon : ∀ cs, Stops (':' :: cs) := fun cs => stops_cons (by decide) cs
  have tee : ∀ cs, Stops ('T' :: cs) := fun cs => stops_cons (by decide) cs
  have between : ∀ cs, dateEnd? ('T' :: cs) = some cs := fun _ => rfl
  have zone : offset? ['Z'] = some (0, []) := rfl
  rw [toList_partsText, readChars?]
  simp only [Option.bind_eq_bind]
  rw [year?_yearText d.year (dash _), Option.bind_some, mark?_cons (by decide), Option.bind_some,
    twoDigits?_padded (dash _) month.1 month.2 (by omega), Option.bind_some]
  rw [mark?_cons (by decide), Option.bind_some,
    twoDigits?_padded (tee _) day.1 day.2 (by omega), Option.bind_some, between, Option.bind_some,
    twoDigits?_padded (colon _) (Nat.zero_le h) hh (by omega), Option.bind_some]
  rw [mark?_cons (by decide), Option.bind_some,
    twoDigits?_padded (colon _) (Nat.zero_le m) hm (by omega), Option.bind_some,
    mark?_cons (by decide), Option.bind_some,
    twoDigits?_padded (stops_placesText n _) (Nat.zero_le s) hs (by omega), Option.bind_some,
    fraction?_placesText hn, Option.bind_some, zone, Option.bind_some]
  rw [if_pos ⟨rfl, exist, by decide, year.1, year.2⟩, Int.sub_zero]
  by_cases leap : s = 60
  · simp only [if_pos leap]
  · simp only [if_neg leap]

/-- Every point in time is read back from its text. -/
theorem read?_text (i : Instant) : read? i.text = some i := by
  have days : (i.seconds / 86400) * 86400 + i.secondOfDay = i.seconds := by
    unfold secondOfDay
    omega
  have day : 0 ≤ i.secondOfDay ∧ i.secondOfDay < 86400 := by
    unfold secondOfDay
    omega
  have minute : i.secondOfDay % 60 = i.seconds % 60 := by
    unfold secondOfDay
    omega
  obtain ⟨least, most, range⟩ := i.denotes
  have year := Date.year_ofDays (n := i.seconds / 86400) (by omega) (by omega)
  obtain ⟨s, hs⟩ := Int.eq_ofNat_of_zero_le day.1
  rw [hs] at days day minute
  have clock : i.secondOfDay.toNat = s := by
    rw [hs]
    rfl
  have parts : i.text = partsText (Date.ofDays (i.seconds / 86400)) (s / 3600) (s / 60 % 60)
      (s % 60 + if 1000000000 ≤ i.nanos then 1 else 0) (i.nanos % 1000000000) := by
    rw [← clock]
    rfl
  have exist := Date.exists?_ofDays (i.seconds / 86400)
  unfold read?
  by_cases leap : 1000000000 ≤ i.nanos
  · -- Only the last second of a minute is followed by a leap second.
    have last : s % 60 + 1 = 60 := by omega
    have nanos : i.nanos % 1000000000 + 1000000000 = i.nanos := by omega
    rw [parts, if_pos leap, last, readChars?_partsText exist year (by omega) (by omega) (by omega)
      (by omega), if_pos rfl, if_pos rfl, Date.toDays_ofDays, nanos]
    rw [show i.seconds / 86400 * 86400 + (s / 3600 * 3600 + s / 60 % 60 * 60 + 59 : Nat) = i.seconds
      by omega]
    exact ofUnix?_self i
  · have early : s % 60 ≠ 60 := by omega
    have nanos : i.nanos % 1000000000 = i.nanos := by omega
    rw [parts, if_neg leap, Nat.add_zero, readChars?_partsText exist year (by omega) (by omega)
      (by omega) (by omega), if_neg early, if_neg early, Date.toDays_ofDays, nanos]
    rw [show i.seconds / 86400 * 86400 + (s / 3600 * 3600 + s / 60 % 60 * 60 + s % 60 : Nat) =
      i.seconds by omega]
    exact ofUnix?_self i

/-- The leap second at the end of 2016. -/
example : (⟨1483228799, 1500000000, by decide⟩ : Instant).text = "2016-12-31T23:59:60.500Z" := by
  cbv

end Instant

end WorkDispatch
