import Overlay.Proofs.Text.Order
import Overlay.Proofs.Time.Written

/-!
# Timestamps are in the order of time

For instants in the years 0 to 9999 the order of the written forms is the order of time. A date is
written from the year down, and so is the time of a day; a leap second is written as second 60,
after second 59. In the fraction, zeros at the end are cut off three at a time, and the offset that
follows it starts with a character before all digits and before the point.

Main statement: `bytes_lt_iff`, with `before_ofDays` for the calendar.
-/

namespace Overlay

namespace Date

/-- The order of dates. -/
def Before (d e : Date) : Prop :=
  d.year < e.year ∨ d.year = e.year ∧ (d.month < e.month ∨ d.month = e.month ∧ d.day < e.day)

/-- A later day is in a later year, or later in the same year, both counted from March. -/
theorem Parts.later {era era' : Int} {p p' : Parts}
    (h : era * 146097 + p.days < era' * 146097 + p'.days) :
    era * 400 + p.year < era' * 400 + p'.year ∨
      era * 400 + p.year = era' * 400 + p'.year ∧ p.ofYear < p'.ofYear := by
  obtain ⟨c, o, t, y, hc, ho, ht, hy, leap⟩ := p
  obtain ⟨c', o', t', y', hc', ho', ht', hy', leap'⟩ := p'
  dsimp only [Parts.year, Parts.days] at h ⊢
  -- each part outweighs all that follow it, so the first one that differs decides
  rcases Int.lt_trichotomy era era' with before | rfl | after
  · omega
  · rcases Nat.lt_trichotomy c c' with before | rfl | after
    · omega
    · rcases Nat.lt_trichotomy o o' with before | rfl | after <;> omega
    · omega
  · omega

theorem before_ofMarch {year year' : Int} {y y' : Nat} (hy : y ≤ 365) (hy' : y' ≤ 365)
    (h : year < year' ∨ year = year' ∧ y < y') : (ofMarch year y).Before (ofMarch year' y') := by
  have last : (5 * y + 2) / 153 ≤ 11 := by omega
  have last' : (5 * y' + 2) / 153 ≤ 11 := by omega
  unfold Before
  rcases Nat.lt_or_ge ((5 * y + 2) / 153) 10 with early | late
  · rw [ofMarch_of_lt early]
    rcases Nat.lt_or_ge ((5 * y' + 2) / 153) 10 with early' | late'
    · rw [ofMarch_of_lt early']
      dsimp only
      omega
    · rw [ofMarch_of_le late']
      dsimp only
      omega
  · rw [ofMarch_of_le late]
    rcases Nat.lt_or_ge ((5 * y' + 2) / 153) 10 with early' | late'
    · rw [ofMarch_of_lt early']
      dsimp only
      omega
    · rw [ofMarch_of_le late']
      dsimp only
      omega

/-- Later days have later dates. -/
theorem before_ofDays {m n : Int} (h : m < n) : (ofDays m).Before (ofDays n) := by
  obtain ⟨p, days, date⟩ := exists_parts m
  obtain ⟨p', days', date'⟩ := exists_parts n
  rw [date, date']
  refine before_ofMarch p.ofYear_le p'.ofYear_le (Parts.later ?_)
  omega

end Date

namespace Instant

/-! ## The fraction -/

theorem ofDecimal_padded_zeros (width n k : Nat) :
    Text.ofDecimal (Text.padded width n ++ List.replicate k '0') = 10 ^ k * n := by
  rw [Text.ofDecimal, Nat.ofDigitChars_append, Nat.ofDigitChars_replicate_zero]
  exact congrArg _ (Text.ofDecimal_padded width n)

/-- The digits of a fraction are those of its nine digits that are left without zeros at the end. -/
theorem exists_digits {n : Nat} (some_part : n ≠ 0) (h : n < 1000000000) :
    ∃ digits k, fractionChars n = '.' :: digits ∧ (∀ c ∈ digits, c.isDigit = true) ∧
      digits.length + k = 9 ∧ Text.ofDecimal (digits ++ List.replicate k '0') = n := by
  have written : ∀ width k m : Nat, 0 < width → m < 10 ^ width → width + k = 9 →
      10 ^ k * m = n → fractionChars n = '.' :: Text.padded width m →
      ∃ digits k, fractionChars n = '.' :: digits ∧ (∀ c ∈ digits, c.isDigit = true) ∧
        digits.length + k = 9 ∧ Text.ofDecimal (digits ++ List.replicate k '0') = n := by
    intro width k m hw fits nine value chars
    refine ⟨Text.padded width m, k, chars, fun _ => Text.isDigit_of_mem_padded, ?_, ?_⟩
    · rw [Text.length_padded hw fits]
      exact nine
    · rw [ofDecimal_padded_zeros]
      exact value
  by_cases milli : n % 1000000 = 0
  · refine written 3 6 (n / 1000000) (by decide) (by omega) rfl (by omega) ?_
    rw [fractionChars, if_neg some_part, if_pos milli]
  · by_cases micro : n % 1000 = 0
    · refine written 6 3 (n / 1000) (by decide) (by omega) rfl (by omega) ?_
      rw [fractionChars, if_neg some_part, if_neg milli, if_pos micro]
    · refine written 9 0 n (by decide) h rfl (by omega) ?_
      rw [fractionChars, if_neg some_part, if_neg milli, if_neg micro]

theorem fraction_lt {m n : Nat} (h : m < n) (bound : n < 1000000000) :
    fractionChars m ++ utc < fractionChars n ++ utc := by
  have nonzero : n ≠ 0 := by omega
  obtain ⟨b, k, chars', digits', nine', value'⟩ := exists_digits nonzero bound
  rw [chars']
  by_cases none : m = 0
  · -- without a fraction the offset follows at once
    have empty : fractionChars m = [] := by rw [fractionChars, if_pos none]
    rw [empty]
    exact List.cons_lt_cons_iff.mpr (Or.inl (by decide))
  · obtain ⟨a, j, chars, digits, nine, value⟩ := exists_digits none (Nat.lt_trans h bound)
    rw [chars, List.cons_append, List.cons_append]
    refine List.cons_lt_cons_iff.mpr (Or.inr ⟨rfl, ?_⟩)
    have zeros : ∀ {cs : List Char} {i : Nat}, (∀ c ∈ cs, c.isDigit = true) →
        ∀ c ∈ cs ++ List.replicate i '0', c.isDigit = true := by
      intro cs i hcs c hc
      rcases List.mem_append.mp hc with digit | zero
      · exact hcs c digit
      · rw [List.eq_of_mem_replicate zero]
        decide
    refine Text.append_lt_append_of_zeros (show '+' < '0' by decide) digits digits'
      (nine.trans nine'.symm) ?_ "00:00".toList "00:00".toList
    refine Text.lt_of_ofDecimal_lt (zeros digits) (zeros digits') ?_
      (by rw [value, value']; exact h)
    rw [List.length_append, List.length_append, List.length_replicate, List.length_replicate]
    exact nine.trans nine'.symm

/-! ## Whole timestamps -/

/-- The second of the day. -/
def ofDay (t : Instant) : Nat := (t.seconds % 86400).toNat

/-- The seconds as they are written. -/
def shownSecond (t : Instant) : Nat := t.ofDay % 60 + if 1000000000 ≤ t.nanos then 1 else 0

/-- The written form of the time of the day, with the offset. -/
def clockChars (t : Instant) : List Char :=
  Text.padded 2 (t.ofDay / 3600) ++ ':' :: (Text.padded 2 (t.ofDay / 60 % 60) ++
    ':' :: (Text.padded 2 t.shownSecond ++ (fractionChars (t.nanos % 1000000000) ++ utc)))

theorem chars_of_legible {t : Instant} (h : t.Legible) :
    t.chars = Text.padded 4 (Date.ofDays (t.seconds / 86400)).year.toNat ++
      '-' :: (Text.padded 2 (Date.ofDays (t.seconds / 86400)).month ++
        '-' :: (Text.padded 2 (Date.ofDays (t.seconds / 86400)).day ++ 'T' :: t.clockChars)) := by
  have year : yearChars (Date.ofDays (t.seconds / 86400)).year
      = Text.padded 4 (Date.ofDays (t.seconds / 86400)).year.toNat := by
    rw [yearChars, if_pos (by rw [decide_eq_true h.1, decide_eq_true h.2]; rfl)]
  rw [chars, year]
  rfl

/-- Within a minute the seconds grow as they are written, with the fraction after them. -/
theorem shownSecond_lt {s t : Instant}
    (h : s.ofDay % 60 < t.ofDay % 60 ∨ s.ofDay % 60 = t.ofDay % 60 ∧ s.nanos < t.nanos) :
    s.shownSecond < t.shownSecond ∨ s.shownSecond = t.shownSecond ∧
      s.nanos % 1000000000 < t.nanos % 1000000000 := by
  have leap : 1000000000 ≤ s.nanos → s.ofDay % 60 = 59 := fun late => by
    have last := s.leap late
    unfold ofDay
    omega
  have short : t.ofDay % 60 < 60 := Nat.mod_lt _ (by decide)
  have limit := t.nanos_lt
  unfold shownSecond
  split <;> split <;> omega

/-- Within a day. -/
theorem clock_lt {s t : Instant} (h : s.ofDay < t.ofDay ∨ s.ofDay = t.ofDay ∧ s.nanos < t.nanos) :
    s.clockChars < t.clockChars := by
  have bound : t.ofDay < 86400 := by
    unfold ofDay
    omega
  have shown : t.shownSecond < 100 := by
    unfold shownSecond
    split <;> omega
  have order : s.ofDay / 3600 < t.ofDay / 3600 ∨ s.ofDay / 3600 = t.ofDay / 3600 ∧
      (s.ofDay / 60 % 60 < t.ofDay / 60 % 60 ∨ s.ofDay / 60 % 60 = t.ofDay / 60 % 60 ∧
        (s.ofDay % 60 < t.ofDay % 60 ∨ s.ofDay % 60 = t.ofDay % 60 ∧ s.nanos < t.nanos)) := by
    omega
  refine Text.padded_cons_lt ':' (by decide) (by omega) (order.imp_right fun ⟨hour, order⟩ => ?_)
  refine ⟨hour, Text.padded_cons_lt ':' (by decide) (by omega) (order.imp_right ?_)⟩
  rintro ⟨minute, order⟩
  refine ⟨minute, Text.padded_append_lt (by decide) shown ((shownSecond_lt order).imp_right ?_)⟩
  rintro ⟨second, less⟩
  exact ⟨second, fraction_lt less (Nat.mod_lt _ (by decide))⟩

/-- A later instant is on a later day or later on the same day. -/
theorem Before.days {s t : Instant} (h : s.Before t) :
    s.seconds / 86400 < t.seconds / 86400 ∨ s.seconds / 86400 = t.seconds / 86400 ∧
      (s.ofDay < t.ofDay ∨ s.ofDay = t.ofDay ∧ s.nanos < t.nanos) := by
  unfold ofDay
  rcases h with earlier | ⟨same, nanos⟩
  · rcases Int.lt_or_le (s.seconds / 86400) (t.seconds / 86400) with day | day
    · exact Or.inl day
    · exact Or.inr ⟨by omega, Or.inl (by omega)⟩
  · rw [same]
    exact Or.inr ⟨rfl, Or.inr ⟨rfl, nanos⟩⟩

/-- Days in the order of their dates, with times behind them. -/
theorem dated_lt {d e : Date} {clock clock' : List Char} (first : 0 ≤ d.year ∧ 0 ≤ e.year)
    (last : e.year ≤ 9999) (month : e.month ≤ 12) (day : e.day ≤ 31)
    (h : d.Before e ∨ d = e ∧ clock < clock') :
    Text.padded 4 d.year.toNat ++ '-' :: (Text.padded 2 d.month ++
        '-' :: (Text.padded 2 d.day ++ 'T' :: clock))
      < Text.padded 4 e.year.toNat ++ '-' :: (Text.padded 2 e.month ++
        '-' :: (Text.padded 2 e.day ++ 'T' :: clock')) := by
  have order : d.year.toNat < e.year.toNat ∨ d.year.toNat = e.year.toNat ∧
      (d.month < e.month ∨ d.month = e.month ∧
        (d.day < e.day ∨ d.day = e.day ∧ clock < clock')) := by
    rcases h with before | ⟨rfl, later⟩
    · unfold Date.Before at before
      omega
    · exact Or.inr ⟨rfl, Or.inr ⟨rfl, Or.inr ⟨rfl, later⟩⟩⟩
  refine Text.padded_cons_lt '-' (by decide) (by omega) (order.imp_right ?_)
  rintro ⟨year, order⟩
  refine ⟨year, Text.padded_cons_lt '-' (by decide) (by omega) (order.imp_right ?_)⟩
  rintro ⟨month, order⟩
  exact ⟨month, Text.padded_cons_lt 'T' (by decide) (by omega) order⟩

theorem chars_lt {s t : Instant} (hs : s.Legible) (ht : t.Legible) (h : s.Before t) :
    s.chars < t.chars := by
  obtain ⟨-, month, -, day⟩ := Date.valid_ofDays (t.seconds / 86400)
  rw [chars_of_legible hs, chars_of_legible ht]
  refine dated_lt ⟨hs.1, ht.1⟩ ht.2 month
    (Nat.le_trans day (Date.daysInMonth_le _ _)) ?_
  rcases h.days with earlier | ⟨same, later⟩
  · exact Or.inl (Date.before_ofDays earlier)
  · exact Or.inr ⟨congrArg _ same, clock_lt later⟩

/-- Of two instants one is before the other, unless they are the same. -/
theorem before_trichotomy (s t : Instant) : s.Before t ∨ s = t ∨ t.Before s := by
  obtain ⟨a, m, _, _⟩ := s
  obtain ⟨b, n, _, _⟩ := t
  rw [Instant.mk.injEq]
  dsimp only [Before]
  omega

theorem render_lt_iff {s t : Instant} (hs : s.Legible) (ht : t.Legible) :
    s.render < t.render ↔ s.Before t := by
  have forth : ∀ {s t : Instant}, s.Legible → t.Legible → s.Before t → s.render < t.render := by
    intro s t hs ht h
    rw [String.lt_iff, render, render, String.toList_ofList, String.toList_ofList]
    exact chars_lt hs ht h
  refine ⟨fun h => ?_, forth hs ht⟩
  rcases before_trichotomy s t with before | rfl | after
  · exact before
  · exact absurd h (String.lt_irrefl _)
  · exact absurd (String.lt_trans h (forth ht hs after)) (String.lt_irrefl _)

/-- The bytes of timestamps are in the order of time. -/
theorem bytes_lt_iff {s t : Instant} (hs : s.Legible) (ht : t.Legible) :
    Text.bytes s.render < Text.bytes t.render ↔ s.Before t := by
  rw [Text.bytes_lt_iff, render_lt_iff hs ht]

end Instant

end Overlay
