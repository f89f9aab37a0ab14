import Overlay.Time.Calendar

/-!
# Days and dates

Counting days and reading dates undo each other. The count of days is taken apart once, into
400-year eras, centuries, groups of four years, years and days (`exists_parts`); that the date
exists and that its number is the one it was read from both follow from the bounds on the parts.

Main statements: `valid_ofDays` and `toDays_ofDays`.
-/

namespace Overlay.Date

/-- A month has 31 days at most. -/
theorem daysInMonth_le (year : Int) (month : Nat) : daysInMonth year month ≤ 31 := by
  unfold daysInMonth
  split
  · split <;> decide
  all_goals decide

/-- The date in the year `y` after the era that starts in the given year, on the day of this number
counted from the first of March. -/
def ofMarch (year : Int) (ofYear : Nat) : Date :=
  let march := (5 * ofYear + 2) / 153
  let day := ofYear - (153 * march + 2) / 5 + 1
  if march < 10 then ⟨year, march + 3, day⟩ else ⟨year + 1, march - 9, day⟩

/-- From March to December the calendar year is the one that the count started in. -/
theorem ofMarch_of_lt {year : Int} {y : Nat} (h : (5 * y + 2) / 153 < 10) :
    ofMarch year y
      = ⟨year, (5 * y + 2) / 153 + 3, y - (153 * ((5 * y + 2) / 153) + 2) / 5 + 1⟩ :=
  if_pos h

/-- January and February belong to the next calendar year. -/
theorem ofMarch_of_le {year : Int} {y : Nat} (h : 10 ≤ (5 * y + 2) / 153) :
    ofMarch year y
      = ⟨year + 1, (5 * y + 2) / 153 - 9, y - (153 * ((5 * y + 2) / 153) + 2) / 5 + 1⟩ :=
  if_neg (Nat.not_lt_of_le h)

/-- A day inside its era: century, group of four years, year and day. The last day of a leap year
is the only one with the number 365. -/
structure Parts where
  century : Nat
  olympiad : Nat
  turn : Nat
  ofYear : Nat
  century_le : century ≤ 3
  olympiad_le : olympiad ≤ 24
  turn_le : turn ≤ 3
  ofYear_le : ofYear ≤ 365
  leap : ofYear = 365 → turn = 3 ∧ (olympiad = 24 → century = 3)

/-- The year in its era. -/
def Parts.year (p : Parts) : Nat := p.century * 100 + p.olympiad * 4 + p.turn

/-- The number of the day in its era. -/
def Parts.days (p : Parts) : Nat :=
  p.century * 36524 + p.olympiad * 1461 + p.turn * 365 + p.ofYear

/-- Every day has its parts, and its date is the one counted from the first of March of its year. -/
theorem exists_parts (n : Int) :
    ∃ p : Parts, (n + epoch) % 146097 = p.days ∧
      ofDays n = ofMarch ((n + epoch) / 146097 * 400 + p.year) p.ofYear := by
  obtain ⟨ofEra, hEra⟩ : ∃ m : Nat, (n + epoch) % 146097 = m :=
    ⟨((n + epoch) % 146097).toNat, by omega⟩
  have bound : ofEra < 146097 := by omega
  have nat : ((n + epoch) % 146097).toNat = ofEra := by omega
  let century := min 3 (ofEra / 36524)
  let ofCentury := ofEra - century * 36524
  let olympiad := ofCentury / 1461
  let ofOlympiad := ofCentury - olympiad * 1461
  let turn := min 3 (ofOlympiad / 365)
  refine ⟨⟨century, olympiad, turn, ofOlympiad - turn * 365, by omega, by omega, by omega,
    by omega, by omega⟩, ?_, ?_⟩
  · rw [hEra]
    dsimp only [Parts.days]
    omega
  · rw [ofDays, nat]
    rfl

/-- The date of every day exists: the month is long enough, the last of February included. -/
theorem valid_ofMarch (era : Int) (p : Parts) :
    (ofMarch (era * 400 + p.year) p.ofYear).Valid := by
  obtain ⟨c, o, t, y, hc, ho, ht, hy, leap⟩ := p
  dsimp only [Parts.year]
  -- March to January have a fixed length; February is the last month of the year
  rcases Nat.lt_or_ge ((5 * y + 2) / 153) 10 with before | after
  · rw [ofMarch_of_lt before]
    simp only [Valid, daysInMonth]
    refine ⟨by omega, by omega, by omega, ?_⟩
    split <;> omega
  · rw [ofMarch_of_le after]
    simp only [Valid]
    by_cases january : (5 * y + 2) / 153 = 10
    · rw [january]
      simp only [daysInMonth]
      omega
    · have february : (5 * y + 2) / 153 - 9 = 2 := by omega
      rw [february]
      simp only [daysInMonth]
      by_cases last : y = 365
      · obtain ⟨rfl, century⟩ := leap last
        have isLeap : isLeap (era * 400 + ((c * 100 + o * 4 + 3 : Nat) : Int) + 1) = true := by
          simp only [Date.isLeap, Bool.and_eq_true, Bool.or_eq_true, beq_iff_eq, bne_iff_ne]
          omega
        rw [isLeap, if_pos rfl]
        omega
      · refine ⟨by omega, by omega, by omega, ?_⟩
        split <;> omega

/-- The number of the date is that of its era and of its parts. -/
theorem toDays_ofMarch (era : Int) (p : Parts) :
    (ofMarch (era * 400 + p.year) p.ofYear).toDays = era * 146097 + p.days - epoch := by
  obtain ⟨c, o, t, y, hc, ho, ht, hy, leap⟩ := p
  dsimp only [Parts.year, Parts.days]
  rcases Nat.lt_or_ge ((5 * y + 2) / 153) 10 with before | after
  · have month : ((5 * y + 2) / 153 + 3 + 9) % 12 = (5 * y + 2) / 153 := by omega
    rw [ofMarch_of_lt before]
    simp only [toDays, month]
    rw [if_neg (by omega)]
    omega
  · have month : ((5 * y + 2) / 153 - 9 + 9) % 12 = (5 * y + 2) / 153 := by omega
    rw [ofMarch_of_le after]
    simp only [toDays, month]
    rw [if_pos (by omega)]
    omega

/-- Every number of a day is that of a date that exists. -/
theorem valid_ofDays (n : Int) : (ofDays n).Valid := by
  obtain ⟨p, -, date⟩ := exists_parts n
  rw [date]
  exact valid_ofMarch _ p

/-- The date of a day has the number of the day. -/
theorem toDays_ofDays (n : Int) : (ofDays n).toDays = n := by
  obtain ⟨p, days, date⟩ := exists_parts n
  rw [date, toDays_ofMarch, ← days]
  omega

end Overlay.Date
