import WorkDispatch.Time.Instant

/-!
# Days and dates

Every day has a date that the calendar has, and the date is that day's: `toDays_ofDays`. A cycle of
400 years falls into centuries, runs of four years, years and days. Its last century, and the last
year of each run, may have a day more than the others, so that the parts cannot be read off by
division alone. `ofDays` takes the leap days away before it divides, and `yearOfCycle_parts` says
that it finds the year.
-/

set_option autoImplicit false

namespace WorkDispatch.Date

/-- The parts of a day in its cycle: centuries, runs of four years, years, and the day of the year,
the last of which is a leap day in the last year of a run. -/
structure Parts (dayOfCycle century run year day : Int) : Prop where
  century_le : 0 ≤ century ∧ century ≤ 3
  run_le : 0 ≤ run ∧ run ≤ 24
  year_le : 0 ≤ year ∧ year ≤ 3
  day_le : 0 ≤ day ∧ day ≤ 365
  leap : day = 365 → year = 3 ∧ (run < 24 ∨ century = 3)
  total : dayOfCycle = 36524 * century + 1461 * run + 365 * year + day

/-- The year that the calendar counts a day of a cycle to is the one that the day falls into. -/
theorem yearOfCycle_parts {d : Int} (h : 0 ≤ d ∧ d < 146097) :
    ∃ century run year day, Parts d century run year day ∧
      (d - d / 1460 + d / 36524 - d / 146096) / 365 = 100 * century + 4 * run + year := by
  by_cases last : d = 146096
  · subst last
    exact ⟨3, 24, 3, 365, ⟨by decide, by decide, by decide, by decide, by decide, by decide⟩, by decide⟩
  · let c := d / 36524
    let q := d % 36524 / 1461
    let s := d % 36524 % 1461
    have total : d = 36524 * c + 1461 * q + s := by omega
    have hc : 0 ≤ c ∧ c ≤ 3 := by omega
    have hq : 0 ≤ q ∧ q ≤ 24 := by omega
    have hs : 0 ≤ s ∧ s ≤ 1460 := by omega
    have short : s = 1460 → q < 24 := by omega
    -- The leap days before a day, but for the one that may lie right behind it.
    have leaps : ∃ e, d / 1460 = 25 * c + q + e ∧ (e = 0 ∧ s < 1460 ∨ e = 1 ∧ 1364 ≤ s) := by
      by_cases behind : 24 * c + q + s < 1460
      · exact ⟨0, by omega, .inl ⟨rfl, by omega⟩⟩
      · exact ⟨1, by omega, .inr ⟨rfl, by omega⟩⟩
    obtain ⟨e, fourth, he⟩ := leaps
    have centuries : d / 36524 = c := rfl
    have cycle : d / 146096 = 0 := by omega
    rw [fourth, centuries, cycle]
    generalize hk : (s - e) / 365 = k
    have year : 0 ≤ k ∧ k ≤ 3 ∧ 0 ≤ s - 365 * k ∧ s - 365 * k ≤ 365 := by omega
    refine ⟨c, q, k, s - 365 * k, ⟨hc, hq, ⟨year.1, year.2.1⟩, year.2.2, ?_, by omega⟩, by omega⟩
    intro leap
    omega

/-- The months since March of a day of the year that begins in March, and the day of the month. -/
theorem month_parts {r : Int} (h : 0 ≤ r ∧ r ≤ 365) :
    0 ≤ (5 * r + 2) / 153 ∧ (5 * r + 2) / 153 ≤ 11 ∧
      0 ≤ r - (153 * ((5 * r + 2) / 153) + 2) / 5 ∧ r - (153 * ((5 * r + 2) / 153) + 2) / 5 ≤ 30 := by
  omega

/-- The leap days before a year of a cycle, as the calendar counts them. -/
theorem Parts.leap_days {d century run year day : Int} (p : Parts d century run year day) :
    (100 * century + 4 * run + year) / 4 = 25 * century + run ∧
      (100 * century + 4 * run + year) / 100 = century ∧
      (100 * century + 4 * run + year) % 400 = 100 * century + 4 * run + year := by
  have := p.century_le
  have := p.run_le
  have := p.year_le
  omega

/-- What a day is counted from: its cycle and its parts. -/
theorem ofDays_parts (n : Int) : ∃ cycle century run year day month,
    Parts (n + 719468 - cycle * 146097) century run year day ∧ 0 ≤ month ∧ month ≤ 11 ∧
      month = (5 * day + 2) / 153 ∧
      ofDays n = ⟨100 * century + 4 * run + year + cycle * 400 + (if month < 10 then 0 else 1),
        (if month < 10 then month + 3 else month - 9).toNat,
        (day - (153 * month + 2) / 5 + 1).toNat⟩ := by
  have inCycle : 0 ≤ (n + 719468) % 146097 ∧ (n + 719468) % 146097 < 146097 := by omega
  obtain ⟨century, run, year, day, parts, counted⟩ := yearOfCycle_parts inCycle
  have rest : n + 719468 - (n + 719468) / 146097 * 146097 = (n + 719468) % 146097 := by omega
  obtain ⟨least, most, _⟩ := month_parts parts.day_le
  have ofYear : (n + 719468) % 146097 - (365 * (100 * century + 4 * run + year) +
      (100 * century + 4 * run + year) / 4 - (100 * century + 4 * run + year) / 100) = day := by
    obtain ⟨fourth, hundredth, _⟩ := parts.leap_days
    have total := parts.total
    rw [fourth, hundredth]
    omega
  refine ⟨(n + 719468) / 146097, century, run, year, day, (5 * day + 2) / 153, rest ▸ parts, least,
    most, rfl, ?_⟩
  unfold ofDays
  simp only [counted, ofYear]
  by_cases early : (5 * day + 2) / 153 < 10
  · simp only [if_pos early]
    rw [if_neg (by omega)]
  · simp only [if_neg early]
    rw [if_pos (by omega)]

/-- The date of a day is counted to that day. -/
theorem toDays_ofDays (n : Int) : (ofDays n).toDays = n := by
  obtain ⟨cycle, century, run, year, day, month, parts, least, most, hm, date⟩ := ofDays_parts n
  have inMonth := month_parts parts.day_le
  rw [← hm] at inMonth
  obtain ⟨fourth, hundredth, inCycle⟩ := parts.leap_days
  have total := parts.total
  -- In either half of the year the date counts from March of the same year of the same cycle.
  have counted : ∀ y : Int, y = 100 * century + 4 * run + year + cycle * 400 →
      y / 400 * 146097 + (y % 400 * 365 + y % 400 / 4 - y % 400 / 100 + day) - 719468 = n := by
    intro y hy
    have cycles : y / 400 = cycle ∧ y % 400 = 100 * century + 4 * run + year := by omega
    rw [cycles.1, cycles.2, fourth, hundredth]
    omega
  rw [date]
  by_cases early : month < 10
  · have later : ¬ (month + 3).toNat ≤ 2 := by omega
    simp only [toDays, marchYear, marchMonth, if_pos early, if_neg later]
    have counted := counted _ rfl
    have months : (((month + 3).toNat : Nat) : Int) - 3 = month := by omega
    rw [months, Int.add_zero]
    omega
  · have later : (month - 9).toNat ≤ 2 := by omega
    simp only [toDays, marchYear, marchMonth, if_neg early, if_pos later]
    have counted := counted _ rfl
    have months : (((month - 9).toNat : Nat) : Int) + 9 = month := by omega
    rw [months, Int.add_sub_cancel]
    omega

/-- A year that ends with a leap day is a leap year of the calendar. -/
theorem isLeapYear_of_leap {century run cycle : Int} (hq : 0 ≤ run ∧ run ≤ 24)
    (leap : run < 24 ∨ century = 3) :
    isLeapYear (100 * century + 4 * run + 3 + cycle * 400 + 1) = true := by
  have fourth : (100 * century + 4 * run + 3 + cycle * 400 + 1) % 4 = 0 := by omega
  have hundredth : (100 * century + 4 * run + 3 + cycle * 400 + 1) % 100 ≠ 0 ∨
      (100 * century + 4 * run + 3 + cycle * 400 + 1) % 400 = 0 := by omega
  simp only [isLeapYear, fourth, decide_true, Bool.true_and, Bool.or_eq_true, bne_iff_ne,
    decide_eq_true_eq]
  exact hundredth

/-- A day of the year is not beyond the end of the month that it is counted to. -/
theorem le_daysInMonth {y day month : Int} (hday : 0 ≤ day ∧ day ≤ 365)
    (hm : month = (5 * day + 2) / 153) (leap : day = 365 → isLeapYear y = true) :
    (day - (153 * month + 2) / 5 + 1).toNat ≤
      daysInMonth y (if month < 10 then month + 3 else month - 9).toNat := by
  have months : month = 0 ∨ month = 1 ∨ month = 2 ∨ month = 3 ∨ month = 4 ∨ month = 5 ∨ month = 6 ∨
      month = 7 ∨ month = 8 ∨ month = 9 ∨ month = 10 ∨ month = 11 := by omega
  -- From March to January the months have their days in every year, February has not.
  rcases months with rfl | rfl | rfl | rfl | rfl | rfl | rfl | rfl | rfl | rfl | rfl | rfl
  · show _ ≤ 31; omega
  · show _ ≤ 30; omega
  · show _ ≤ 31; omega
  · show _ ≤ 30; omega
  · show _ ≤ 31; omega
  · show _ ≤ 31; omega
  · show _ ≤ 30; omega
  · show _ ≤ 31; omega
  · show _ ≤ 30; omega
  · show _ ≤ 31; omega
  · show _ ≤ 31; omega
  · show _ ≤ if isLeapYear y then 29 else 28
    by_cases last : day = 365
    · rw [if_pos (leap last)]
      omega
    · split
      · omega
      · omega

/-- The date of a day is one that the calendar has. -/
theorem exists?_ofDays (n : Int) : (ofDays n).exists? = true := by
  obtain ⟨cycle, century, run, year, day, month, parts, least, most, hm, date⟩ := ofDays_parts n
  have inMonth := month_parts parts.day_le
  rw [← hm] at inMonth
  have last := le_daysInMonth parts.day_le hm
    (y := 100 * century + 4 * run + year + cycle * 400 + (if month < 10 then 0 else 1)) (by
      intro leap
      obtain ⟨third, later⟩ := parts.leap leap
      have february : ¬ month < 10 := by omega
      rw [if_neg february, third]
      exact isLeapYear_of_leap parts.run_le later)
  have named : 1 ≤ (if month < 10 then month + 3 else month - 9).toNat ∧
      (if month < 10 then month + 3 else month - 9).toNat ≤ 12 := by
    split
    · omega
    · omega
  have first : 1 ≤ (day - (153 * month + 2) / 5 + 1).toNat := by omega
  rw [date]
  simp only [exists?, decide_eq_true named.1, decide_eq_true named.2, decide_eq_true first,
    decide_eq_true last, Bool.and_true]

/-- The days that points in time lie in are of the years that are read. -/
theorem year_ofDays {n : Int} (least : -96465292 ≤ n) (most : n ≤ 95026236) :
    -262143 ≤ (ofDays n).year ∧ (ofDays n).year ≤ 262142 := by
  obtain ⟨cycle, century, run, year, day, month, parts, _, _, hm, date⟩ := ofDays_parts n
  have hc := parts.century_le
  have hq := parts.run_le
  have hk := parts.year_le
  have hr := parts.day_le
  have total := parts.total
  -- The bounds are tight, so that they hold for whole centuries and years only.
  have centuries : century = 0 ∨ century = 1 ∨ century = 2 ∨ century = 3 := by omega
  have years : year = 0 ∨ year = 1 ∨ year = 2 ∨ year = 3 := by omega
  rw [date]
  show -262143 ≤ 100 * century + 4 * run + year + cycle * 400 + (if month < 10 then 0 else 1) ∧
    100 * century + 4 * run + year + cycle * 400 + (if month < 10 then 0 else 1) ≤ 262142
  split
  · omega
  · rcases years with rfl | rfl | rfl | rfl
    all_goals rcases centuries with rfl | rfl | rfl | rfl
    all_goals omega

end WorkDispatch.Date
