import Persistence.Time.Date

/-! The numbering of days. An era has four centuries, a century 25 spans of four years and a span four years, the last
    one of each being cut short or drawn out by the rules for leap days; so a number of a day tells its place in all of
    these, the date of a number is one of the calendar, and its number is the one that it was made from. -/

namespace Persistence.Date

/-! ### Eras -/

/-- A day of an era lies in a century, in a span and in a year, of which only the last one of a span has a 366th day,
unless it ends a century other than the last one of the era. -/
theorem exists_parts {d : Nat} (h : d < 146097) : ∃ c q t x, d = 36524 * c + 1461 * q + 365 * t + x ∧ c ≤ 3 ∧ q ≤ 24 ∧
    t ≤ 3 ∧ x ≤ 365 ∧ (x = 365 → t = 3 ∧ (q = 24 → c = 3)) := by
  obtain ⟨c, r, hr, hc, hlast⟩ : ∃ c r, d = 36524 * c + r ∧ c ≤ 3 ∧ r ≤ 36524 ∧ (r = 36524 → c = 3) := by
    by_cases last : d = 146096
    · exact ⟨3, 36524, by omega, by omega, by omega, fun _ => rfl⟩
    · exact ⟨d / 36524, d % 36524, by omega, by omega, by omega, by omega⟩
  obtain ⟨q, s, hs, hq⟩ : ∃ q s, r = 1461 * q + s ∧ s ≤ 1460 := ⟨r / 1461, r % 1461, by omega, by omega⟩
  obtain ⟨t, x, hx, ht, hx', hleap⟩ : ∃ t x, s = 365 * t + x ∧ t ≤ 3 ∧ x ≤ 365 ∧ (x = 365 → t = 3) := by
    by_cases last : s = 1460
    · exact ⟨3, 365, by omega, by omega, by omega, fun _ => rfl⟩
    · exact ⟨s / 365, s % 365, by omega, by omega, by omega, by omega⟩
  exact ⟨c, q, t, x, by omega, hc, by omega, ht, hx', fun full => ⟨hleap full, by omega⟩⟩

section Parts
variable {c q t x d : Nat} (hc : c ≤ 3) (hq : q ≤ 24) (ht : t ≤ 3) (hx : x ≤ 365)
  (full : x = 365 → t = 3 ∧ (q = 24 → c = 3)) (hd : d = 36524 * c + 1461 * q + 365 * t + x)
include hc hq ht hx full hd

theorem yearOfEra_eq : (d - d / 1460 + d / 36524 - d / 146096) / 365 = 100 * c + 4 * q + t := by
  -- The day is short of, or at, the end of a span, of a century and of the era.
  have spans : d / 1460 = 25 * c + q + if 1460 ≤ 24 * c + q + 365 * t + x then 1 else 0 := by
    split <;> omega
  have centuries : d / 36524 = c + if x = 365 ∧ q = 24 then 1 else 0 := by
    split <;> omega
  have eras : d / 146096 = if x = 365 ∧ q = 24 then 1 else 0 := by
    split <;> omega
  rw [spans, centuries, eras]
  split <;> split <;> omega

omit hc hx full in
theorem dayOfYear_eq : d - (365 * (100 * c + 4 * q + t) + (100 * c + 4 * q + t) / 4 - (100 * c + 4 * q + t) / 100) = x := by
  have spans : (100 * c + 4 * q + t) / 4 = 25 * c + q := by omega
  have centuries : (100 * c + 4 * q + t) / 100 = c := by omega
  rw [spans, centuries]
  omega

end Parts

/-! ### Days of a year -/

/-- The month of a day of a year that begins in March. -/
def monthOf (x : Nat) : Nat :=
  if (5 * x + 2) / 153 < 10 then (5 * x + 2) / 153 + 3 else (5 * x + 2) / 153 - 9

/-- The day in its month of a day of a year that begins in March. -/
def dayOf (x : Nat) : Nat := x - (153 * ((5 * x + 2) / 153) + 2) / 5 + 1

/-- What is to be said of the days of a year: that they are told by their month and the day in it, and that only the last
one is a leap day. -/
theorem dayOfYear_monthOf {x : Nat} (hx : x ≤ 365) : dayOfYear (monthOf x) (dayOf x) = x ∧ 1 ≤ monthOf x ∧ monthOf x ≤ 12 ∧
    1 ≤ dayOf x ∧ (∀ year, dayOf x ≤ daysInMonth year (monthOf x) ∨ x = 365 ∧ monthOf x = 2 ∧ dayOf x = 29) := by
  have all : ∀ x ∈ List.range 366, dayOfYear (monthOf x) (dayOf x) = x ∧ 1 ≤ monthOf x ∧ monthOf x ≤ 12 ∧ 1 ≤ dayOf x ∧
      (monthOf x = 2 → dayOf x ≤ 28 ∨ x = 365 ∧ dayOf x = 29) ∧
      (monthOf x = 4 ∨ monthOf x = 6 ∨ monthOf x = 9 ∨ monthOf x = 11 → dayOf x ≤ 30) ∧ dayOf x ≤ 31 := by
    decide +kernel
  obtain ⟨told, least, most, first, february, short, long⟩ := all x (List.mem_range.mpr (by omega))
  refine ⟨told, least, most, first, fun year => ?_⟩
  unfold daysInMonth
  split
  next second =>
    rcases february second with usual | ⟨last, leap⟩
    · left
      split <;> omega
    · exact Or.inr ⟨last, second, leap⟩
  · left
    split
    next thirty => exact short (by simpa [or_assoc] using thirty)
    · exact long

/-- A number of a day is made up of eras, years of the era and a day of the year. -/
theorem exists_ofDayNumber (n : Int) : ∃ (era : Int) (y x : Nat), y < 400 ∧ x ≤ 365 ∧
    (x = 365 → isLeapYear (y + era * 400 + 1) = true) ∧
    n = era * 146097 + (y * 365 + y / 4 - y / 100 + x : Int) - 719468 ∧
    ofDayNumber n = ⟨if monthOf x ≤ 2 then y + era * 400 + 1 else y + era * 400, monthOf x, dayOf x⟩ := by
  generalize hera : (n + 719468) / 146097 = era
  generalize hrest : ((n + 719468) % 146097).toNat = d
  have hn : n = era * 146097 + d - 719468 := by omega
  obtain ⟨c, q, t, x, hd, hc, hq, ht, hx, full⟩ := exists_parts (d := d) (by omega)
  have year := yearOfEra_eq hc hq ht hx full hd
  have day := dayOfYear_eq hq ht hd
  generalize hy : 100 * c + 4 * q + t = y at year day
  have spans : y / 4 = 25 * c + q := by omega
  have centuries : y / 100 = c := by omega
  refine ⟨era, y, x, by omega, hx, fun last => ?_, by omega, ?_⟩
  · -- The year after a span is a leap year unless it begins a century, and the one after an era is one all the same.
    obtain ⟨rfl, century⟩ := full last
    have fourth : (y + era * 400 + 1 : Int) % 4 = 0 := by omega
    have rule : (y + era * 400 + 1 : Int) % 100 ≠ 0 ∨ (y + era * 400 + 1 : Int) % 400 = 0 := by
      by_cases end_ : q = 24
      · obtain rfl := century end_
        right
        omega
      · left
        omega
    simpa [isLeapYear, fourth] using rule
  · unfold ofDayNumber
    dsimp only
    rw [hrest, hera, year, day]
    rfl

/-- The date of a number of a day is one of the calendar. -/
theorem isValid_ofDayNumber (n : Int) : (ofDayNumber n).isValid = true := by
  obtain ⟨era, y, x, hy, hx, leap, -, hdate⟩ := exists_ofDayNumber n
  obtain ⟨-, least, most, first, days⟩ := dayOfYear_monthOf hx
  rw [hdate]
  simp only [isValid, Bool.and_eq_true, decide_eq_true_eq]
  refine ⟨⟨⟨least, most⟩, first⟩, ?_⟩
  rcases days (if monthOf x ≤ 2 then y + era * 400 + 1 else y + era * 400) with fits | ⟨last, february, leapDay⟩
  · exact fits
  · rw [february, leapDay]
    simp [daysInMonth, leap last]

theorem le_of_isValid {d : Date} (h : d.isValid = true) : d.month ≤ 12 ∧ d.day ≤ 31 := by
  simp only [isValid, Bool.and_eq_true, decide_eq_true_eq] at h
  obtain ⟨⟨⟨-, month⟩, -⟩, day⟩ := h
  refine ⟨month, Nat.le_trans day ?_⟩
  unfold daysInMonth
  split <;> split <;> decide

/-- The number of the date of a number is the number. -/
theorem toDayNumber_ofDayNumber (n : Int) : (ofDayNumber n).toDayNumber = n := by
  obtain ⟨era, y, x, hy, hx, -, hn, hdate⟩ := exists_ofDayNumber n
  obtain ⟨told, -⟩ := dayOfYear_monthOf hx
  have year : (if monthOf x ≤ 2 then (if monthOf x ≤ 2 then (y : Int) + era * 400 + 1 else y + era * 400) - 1
      else if monthOf x ≤ 2 then (y : Int) + era * 400 + 1 else y + era * 400) = y + era * 400 := by
    split <;> omega
  rw [hdate]
  unfold toDayNumber
  dsimp only
  rw [year, told]
  omega

end Persistence.Date
