import Overlay.Proofs.Text.Numerals
import Overlay.Proofs.Time.Days
import Overlay.Time.Clock
import Overlay.Time.Timestamp

/-!
# Timestamps are read back

The text of an instant in the years 0 to 9999 names this instant, leap seconds included: every part
has a fixed width, so the parts of the text are found again, and the date determines its day.

Main statement: `parse?_render`. A clock is legible if all its readings so far are such instants
(`Clock.Legible`).
-/

namespace Overlay.Instant

/-- An instant whose year is written with four digits and no sign. -/
def Legible (t : Instant) : Prop :=
  0 ≤ (Date.ofDays (t.seconds / 86400)).year ∧ (Date.ofDays (t.seconds / 86400)).year ≤ 9999

instance (t : Instant) : Decidable t.Legible := by unfold Legible; infer_instance

/-- A padded number is read if it is below the bound. -/
theorem below?_padded {bound width n : Nat} (hw : 0 < width) (fits : n < 10 ^ width)
    (h : n < bound) : below? bound (Text.padded width n) = some n := by
  rw [below?, Text.decimal?_padded hw fits]
  exact if_pos h

/-- A number below a hundred is padded to two characters. -/
theorem exists_padded_two {n : Nat} (h : n < 100) : ∃ a b, Text.padded 2 n = [a, b] := by
  have len : (Text.padded 2 n).length = 2 := Text.length_padded (by decide) h
  match Text.padded 2 n, len with
  | [a, b], _ => exact ⟨a, b, rfl⟩

/-- A number below ten thousand is padded to four characters. -/
theorem exists_padded_four {n : Nat} (h : n < 10000) :
    ∃ a b c d, Text.padded 4 n = [a, b, c, d] := by
  have len : (Text.padded 4 n).length = 4 := Text.length_padded (by decide) h
  match Text.padded 4 n, len with
  | [a, b, c, d], _ => exact ⟨a, b, c, d, rfl⟩

/-- The offset that every timestamp is written with. -/
def utc : List Char := "+00:00".toList

/-- The written offset is that of UTC. -/
theorem offset?_utc : offset? utc = some 0 := by decide

/-- The digits end where the offset starts. -/
theorem takeWhile_padded (width n : Nat) :
    (Text.padded width n ++ utc).takeWhile Char.isDigit = Text.padded width n := by
  rw [List.takeWhile_append_of_pos fun _ h => Text.isDigit_of_mem_padded h]
  show Text.padded width n ++ [] = _
  rw [List.append_nil]

/-- Behind the digits stands the offset. -/
theorem dropWhile_padded (width n : Nat) :
    (Text.padded width n ++ utc).dropWhile Char.isDigit = utc := by
  rw [List.dropWhile_append_of_pos fun _ h => Text.isDigit_of_mem_padded h]
  rfl

/-- Digits behind the point count from the left, however few there are. -/
theorem fraction?_padded {width n : Nat} (hw : 0 < width) (hw' : width ≤ 9) (h : n < 10 ^ width) :
    fraction? ('.' :: (Text.padded width n ++ utc)) = some (10 ^ (9 - width) * n, utc) := by
  have len := Text.length_padded hw h
  have some_digit : (Text.padded width n).isEmpty = false := by
    rw [List.isEmpty_eq_false_iff]
    intro none
    rw [none, List.length_nil] at len
    omega
  have nine : (Text.padded width n ++ List.replicate 9 '0').take 9
      = Text.padded width n ++ List.replicate (9 - width) '0' := by
    rw [List.take_append, len, List.take_of_length_le (by omega), List.take_replicate]
    congr 2
    omega
  have value : Text.ofDecimal (Text.padded width n ++ List.replicate (9 - width) '0')
      = 10 ^ (9 - width) * n := by
    rw [Text.ofDecimal, Nat.ofDigitChars_append, Nat.ofDigitChars_replicate_zero]
    exact congrArg _ (Text.ofDecimal_padded width n)
  simp only [fraction?, takeWhile_padded, dropWhile_padded, some_digit, nine, value]
  rfl

/-- A fraction of a second is read back, without one as zero. -/
theorem fraction?_fractionChars {nanos : Nat} (h : nanos < 1000000000) :
    fraction? (fractionChars nanos ++ utc) = some (nanos, utc) := by
  unfold fractionChars
  split
  · next zero =>
    rw [zero]
    rfl
  · split
    · next milli =>
      rw [List.cons_append, fraction?_padded (by decide) (by decide) (by omega)]
      simp only [Option.some.injEq, Prod.mk.injEq, and_true]
      omega
    · split
      · next micro =>
        rw [List.cons_append, fraction?_padded (by decide) (by decide) (by omega)]
        simp only [Option.some.injEq, Prod.mk.injEq, and_true]
        omega
      · rw [List.cons_append, fraction?_padded (by decide) (by decide) (by omega)]
        simp only [Option.some.injEq, Prod.mk.injEq, and_true]
        omega

/-- A date within four digits of a year is read back. -/
theorem day?_padded {date : Date} (h : date.Valid) (first : 0 ≤ date.year)
    (last : date.year ≤ 9999) :
    day? (Text.padded 4 date.year.toNat) (Text.padded 2 date.month) (Text.padded 2 date.day)
      = some date.toDays := by
  obtain ⟨y, month, day⟩ := date
  have short := Date.daysInMonth_le y month
  obtain ⟨m1, m12, d1, dmax⟩ := h
  dsimp only at *
  rw [day?, below?_padded (by decide) (by omega) (by omega),
    below?_padded (by decide) (by omega) (by omega),
    below?_padded (by decide) (by omega) (by omega)]
  simp only [Option.bind_eq_bind, Option.bind_some, Int.toNat_of_nonneg first]
  exact if_pos ⟨m1, m12, d1, dmax⟩

/-- The last second of a minute may be a leap second, written as second 60. -/
theorem second_of_leap (t : Instant) (leap : Nat)
    (h : (if 1000000000 ≤ t.nanos then 1 else 0) = leap) :
    let second := (t.seconds % 86400).toNat % 60 + leap
    second < 61 ∧ min second 59 = (t.seconds % 86400).toNat % 60 ∧
      (if second = 60 then t.nanos % 1000000000 + 1000000000 else t.nanos % 1000000000)
        = t.nanos := by
  have bound := t.nanos_lt
  by_cases late : 1000000000 ≤ t.nanos
  · have minute := t.leap late
    rw [if_pos late] at h
    subst h
    refine ⟨by omega, by omega, ?_⟩
    rw [if_pos (by omega)]
    omega
  · rw [if_neg late] at h
    subst h
    refine ⟨by omega, by omega, ?_⟩
    rw [if_neg (by omega)]
    omega

/-- The characters of a legible instant are read back. -/
theorem ofChars?_chars {t : Instant} (h : t.Legible) : ofChars? t.chars = some t := by
  obtain ⟨first, last⟩ := h
  have valid := Date.valid_ofDays (t.seconds / 86400)
  have day := day?_padded valid first last
  rw [Date.toDays_ofDays (t.seconds / 86400)] at day
  obtain ⟨leap, hleap⟩ : ∃ n : Nat, (if 1000000000 ≤ t.nanos then 1 else 0) = n := ⟨_, rfl⟩
  obtain ⟨second_lt, second_min, nanos⟩ := second_of_leap t leap hleap
  have hour : below? 24 (Text.padded 2 ((t.seconds % 86400).toNat / 3600))
      = some ((t.seconds % 86400).toNat / 3600) :=
    below?_padded (by decide) (by omega) (by omega)
  have minute : below? 60 (Text.padded 2 ((t.seconds % 86400).toNat / 60 % 60))
      = some ((t.seconds % 86400).toNat / 60 % 60) :=
    below?_padded (by decide) (by omega) (by omega)
  have second : below? 61 (Text.padded 2 ((t.seconds % 86400).toNat % 60 + leap))
      = some ((t.seconds % 86400).toNat % 60 + leap) :=
    below?_padded (by decide) (by omega) second_lt
  have fraction : fraction? (fractionChars (t.nanos % 1000000000) ++ utc)
      = some (t.nanos % 1000000000, utc) :=
    fraction?_fractionChars (by omega)
  have year : yearChars (Date.ofDays (t.seconds / 86400)).year
      = Text.padded 4 (Date.ofDays (t.seconds / 86400)).year.toNat := by
    rw [yearChars, if_pos (by rw [decide_eq_true first, decide_eq_true last]; rfl)]
  -- every part has a known width, so the text is matched character by character
  obtain ⟨y1, y2, y3, y4, hy⟩ := exists_padded_four
    (n := (Date.ofDays (t.seconds / 86400)).year.toNat) (by omega)
  obtain ⟨m1, m2, hm⟩ := exists_padded_two (n := (Date.ofDays (t.seconds / 86400)).month)
    (by have := valid.2.1; omega)
  obtain ⟨d1, d2, hd⟩ := exists_padded_two (n := (Date.ofDays (t.seconds / 86400)).day)
    (by have := Date.daysInMonth_le (Date.ofDays (t.seconds / 86400)).year
          (Date.ofDays (t.seconds / 86400)).month; have := valid.2.2.2; omega)
  obtain ⟨h1, h2, hh⟩ := exists_padded_two (n := (t.seconds % 86400).toNat / 3600) (by omega)
  obtain ⟨i1, i2, hi⟩ := exists_padded_two (n := (t.seconds % 86400).toNat / 60 % 60) (by omega)
  obtain ⟨s1, s2, hs⟩ := exists_padded_two (n := (t.seconds % 86400).toNat % 60 + leap) (by omega)
  have text : t.chars = y1 :: y2 :: y3 :: y4 :: '-' :: m1 :: m2 :: '-' :: d1 :: d2 :: 'T' ::
      h1 :: h2 :: ':' :: i1 :: i2 :: ':' :: s1 :: s2 ::
        (fractionChars (t.nanos % 1000000000) ++ utc) := by
    simp only [chars, hleap, year, hy, hm, hd, hh, hi, hs, utc, List.cons_append, List.nil_append]
  rw [hy, hm, hd] at day
  rw [hh] at hour
  rw [hi] at minute
  rw [hs] at second
  rw [text, ofChars?]
  simp only [day, hour, minute, second, fraction, offset?_utc, Option.bind_eq_bind,
    Option.bind_some, second_min, nanos, decide_true, Bool.true_or, if_true]
  have total : t.seconds / 86400 * 86400 + ((t.seconds % 86400).toNat / 3600 : Nat) * 3600
      + ((t.seconds % 86400).toNat / 60 % 60 : Nat) * 60
      + ((t.seconds % 86400).toNat % 60 : Nat) - 0 = t.seconds := by
    omega
  rw [total]
  exact of?_eq_some t

/-- A legible instant is read back. -/
theorem parse?_render {t : Instant} (h : t.Legible) : parse? t.render = some t := by
  rw [parse?, render, String.toList_ofList]
  exact ofChars?_chars h

end Overlay.Instant

namespace Overlay.Clock

/-- A clock that has shown no time outside the years 0 to 9999 so far. -/
def Legible (c : Clock) : Prop := ∀ n < c.readings, (c.reading n).Legible

instance (c : Clock) : Decidable c.Legible := by unfold Legible; infer_instance

/-- A clock that is legible later is legible now. -/
theorem Legible.earlier {c c' : Clock} (h : c'.Legible) (later : c.GoesOn c') : c.Legible := by
  intro n shown
  rw [← later.reading]
  exact h n (Nat.lt_of_lt_of_le shown later.readings)

/-- A clock that is legible after a reading has shown a legible instant. -/
theorem legible_next {c : Clock} (h : c.read.2.Legible) : c.read.1.Legible :=
  h c.readings (Nat.lt_succ_self _)

/-- A clock that was never read and counts the seconds from 1970 on. -/
def counting : Clock := ⟨fun n => .ofSeconds n, 0⟩

end Overlay.Clock
