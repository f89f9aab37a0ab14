/-!
# The civil calendar

Days counted from 1970-01-01 and dates of the proleptic Gregorian calendar, in both directions.
A year is taken to start on the first of March, so that the leap day is the last day of its year:
400 years have 146097 days, a century 36524 (the fourth one day more), four years 1461 (the last
four of most centuries one day less), and a year 365 or 366.
-/

namespace Overlay

/-- A date of the proleptic Gregorian calendar. -/
structure Date where
  year : Int
  month : Nat
  day : Nat
  deriving DecidableEq, Repr

namespace Date

/-- The number of days from 0000-03-01 to 1970-01-01. -/
def epoch : Int := 719468

/-- Whether the year has a 29th of February. -/
def isLeap (year : Int) : Bool := year % 4 == 0 && (year % 100 != 0 || year % 400 == 0)

/-- The length of a month. -/
def daysInMonth (year : Int) (month : Nat) : Nat :=
  match month with
  | 2 => if isLeap year then 29 else 28
  | 4 | 6 | 9 | 11 => 30
  | _ => 31

/-- Whether the calendar has this date. -/
def Valid (d : Date) : Prop :=
  1 ≤ d.month ∧ d.month ≤ 12 ∧ 1 ≤ d.day ∧ d.day ≤ daysInMonth d.year d.month

instance (d : Date) : Decidable d.Valid := by unfold Valid; infer_instance

/-- The number of the day, 1970-01-01 being day 0. -/
def toDays (d : Date) : Int :=
  let year := if d.month ≤ 2 then d.year - 1 else d.year
  let ofEra := (year % 400).toNat
  let ofYear := (153 * ((d.month + 9) % 12) + 2) / 5 + (d.day - 1)
  year / 400 * 146097 + ((ofEra * 365 + ofEra / 4 - ofEra / 100 + ofYear : Nat) : Int) - epoch

/-- The date of a day. -/
def ofDays (n : Int) : Date :=
  let days := n + epoch
  let ofEra := (days % 146097).toNat
  let century := min 3 (ofEra / 36524)
  let ofCentury := ofEra - century * 36524
  let olympiad := ofCentury / 1461
  let ofOlympiad := ofCentury - olympiad * 1461
  let turn := min 3 (ofOlympiad / 365)
  let ofYear := ofOlympiad - turn * 365
  let year := days / 146097 * 400 + ((century * 100 + olympiad * 4 + turn : Nat) : Int)
  let march := (5 * ofYear + 2) / 153
  let day := ofYear - (153 * march + 2) / 5 + 1
  if march < 10 then ⟨year, march + 3, day⟩ else ⟨year + 1, march - 9, day⟩

end Date

end Overlay
