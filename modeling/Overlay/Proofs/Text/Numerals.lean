import Mathlib.Algebra.Group.Nat.Defs
import Overlay.Text.Decimal

/-!
# Decimal and hexadecimal numerals

A numeral consists of digits only, has no zero in front unless it is `0` itself, and determines its
number; so do a text followed by a numeral and a numeral padded to a fixed width.

Main statements: `ofDecimal_padded`, a padded numeral is read back, `decimal_ofDecimal`, digits with
no zero in front are a numeral, `append_toString_inj`, names that are numbered with one stem differ
when their numbers do, and `hex?_leftpad`, a hexadecimal numeral is read back with any number of
zeros in front.
-/

namespace Overlay.Text

/-- Decimal digits are all that a written number has. -/
theorem isDigit_of_mem_decimal {n : Nat} {c : Char} (h : c ∈ decimal n) : c.isDigit = true :=
  Nat.isDigit_of_mem_toDigits (by decide) (by decide) h

/-- A character that is no digit does not occur in a written number. -/
theorem not_mem_decimal {n : Nat} {c : Char} (hc : c.isDigit = false) : c ∉ decimal n := by
  intro h
  rw [isDigit_of_mem_decimal h] at hc
  exact Bool.noConfusion hc

theorem decimal_ne_nil (n : Nat) : decimal n ≠ [] := Nat.toDigits_ne_nil

/-- A numeral starts with a digit. -/
theorem decimal_cons (n : Nat) : ∃ d ds, d.isDigit = true ∧ decimal n = d :: ds := by
  obtain ⟨d, ds, shown⟩ := List.exists_cons_of_ne_nil (decimal_ne_nil n)
  exact ⟨d, ds, isDigit_of_mem_decimal (by rw [shown]; exact List.mem_cons_self), shown⟩

/-- A number below a power of ten has at most so many digits. -/
theorem length_decimal_le {n k : Nat} (hk : 0 < k) (h : n < 10 ^ k) : (decimal n).length ≤ k :=
  (Nat.length_toDigits_le_iff (by decide) hk).mpr h

/-- Only the numeral of zero starts with a zero. -/
theorem head?_decimal {n : Nat} (h : 0 < n) : (decimal n).head? ≠ some '0' := by
  induction n using Nat.strongRecOn with
  | ind n ih =>
      rw [decimal, Nat.toDigits_eq_if (by decide)]
      by_cases small : n < 10
      · rw [if_pos small]
        intro zero
        have same : n.digitChar.toNat = '0'.toNat := congrArg Char.toNat (Option.some.inj zero)
        rw [Nat.toNat_digitChar_of_lt_ten small] at same
        simp only [Char.reduceToNat] at same
        omega
      · have front := ih (n / 10) (by omega) (by omega)
        obtain ⟨c, cs, digits⟩ :=
          List.exists_cons_of_ne_nil (Nat.toDigits_ne_nil (n := n / 10) (b := 10))
        rw [decimal, digits] at front
        rw [if_neg small, digits]
        exact front

theorem ofDecimal_decimal (n : Nat) : ofDecimal (decimal n) = n := Nat.ofDigitChars_ten_toDigits

theorem decimal_injective : Function.Injective decimal :=
  Function.LeftInverse.injective ofDecimal_decimal

/-- The digits are one run of code points. -/
theorem toNat_of_isDigit {c : Char} (h : c.isDigit = true) : 48 ≤ c.toNat ∧ c.toNat ≤ 57 := by
  simp only [Char.isDigit, Bool.and_eq_true, decide_eq_true_eq] at h
  exact h

/-- A digit stands for a number below ten. -/
theorem digit_lt {c : Char} (h : c.isDigit = true) : c.toNat - '0'.toNat < 10 := by
  have range := toNat_of_isDigit h
  simp only [Char.reduceToNat]
  omega

/-- A digit is the numeral of its value. -/
theorem decimal_digit {c : Char} (h : c.isDigit = true) : decimal (c.toNat - '0'.toNat) = [c] := by
  have range := toNat_of_isDigit h
  have same : (c.toNat - '0'.toNat).digitChar = c := by
    apply Char.toNat_inj.mp
    rw [Nat.toNat_digitChar_of_lt_ten (digit_lt h)]
    simp only [Char.reduceToNat]
    omega
  rw [decimal, Nat.toDigits_of_lt_base (digit_lt h), same]

/-- Digits behind the numeral of a positive number make a longer one. -/
theorem decimal_append {n : Nat} (hn : 0 < n) {cs : List Char}
    (digits : ∀ c ∈ cs, c.isDigit = true) :
    decimal n ++ cs = decimal (Nat.ofDigitChars 10 cs n) := by
  induction cs generalizing n with
  | nil => rw [List.append_nil, Nat.ofDigitChars_nil]
  | cons c cs ih =>
      obtain ⟨digit, rest⟩ := List.forall_mem_cons.mp digits
      have longer : decimal n ++ [c] = decimal (10 * n + (c.toNat - '0'.toNat)) := by
        rw [← decimal_digit digit]
        exact Nat.toDigits_append_toDigits (by decide) hn (digit_lt digit)
      rw [Nat.ofDigitChars_cons, ← ih (by omega) rest, ← longer, List.append_assoc]
      rfl

/-- A run of digits is the numeral of its number, unless it is longer than one and has a zero in
front. -/
theorem decimal_ofDecimal {cs : List Char} (some_digits : cs ≠ [])
    (digits : ∀ c ∈ cs, c.isDigit = true) (plain : cs.length = 1 ∨ cs.head? ≠ some '0') :
    decimal (ofDecimal cs) = cs := by
  obtain ⟨c, rest, rfl⟩ := List.exists_cons_of_ne_nil some_digits
  obtain ⟨digit, rest_digits⟩ := List.forall_mem_cons.mp digits
  have same := decimal_digit digit
  rw [ofDecimal, Nat.ofDigitChars_cons, Nat.mul_zero, Nat.zero_add]
  rcases plain with single | front
  · rw [List.length_cons, Nat.add_eq_right, List.length_eq_zero_iff] at single
    rw [single, Nat.ofDigitChars_nil, same]
  · have pos : 0 < c.toNat - '0'.toNat := by
      refine Nat.pos_of_ne_zero fun zero => front ?_
      rw [zero] at same
      rw [List.head?_cons, ← (List.cons.inj same).1]
      rfl
    rw [← decimal_append pos rest_digits, same]
    rfl

/-- What is read as a number is a run of digits. -/
theorem digits_of_decimal? {cs : List Char} {n : Nat} (h : decimal? cs = some n) :
    cs ≠ [] ∧ (∀ c ∈ cs, c.isDigit = true) ∧ ofDecimal cs = n := by
  rw [decimal?] at h
  split at h
  · next shape =>
    rw [Bool.and_eq_true, Bool.not_eq_true', List.isEmpty_eq_false_iff, List.all_eq_true] at shape
    exact ⟨shape.1, shape.2, Option.some.inj h⟩
  · cases h

/-- Zeros in front do not change a number. -/
theorem ofDecimal_padded (width n : Nat) : ofDecimal (padded width n) = n := by
  rw [padded, List.leftpad, ofDecimal, Nat.ofDigitChars_append, Nat.ofDigitChars_replicate_zero,
    Nat.mul_zero]
  exact ofDecimal_decimal n

/-- A number that fits is padded to the width exactly. -/
theorem length_padded {width n : Nat} (hw : 0 < width) (h : n < 10 ^ width) :
    (padded width n).length = width := by
  have fits := length_decimal_le hw h
  rw [padded, List.length_leftpad]
  omega

/-- Padding adds digits only. -/
theorem isDigit_of_mem_padded {width n : Nat} {c : Char} (h : c ∈ padded width n) :
    c.isDigit = true := by
  rw [padded, List.leftpad, List.mem_append] at h
  rcases h with zero | digit
  · rw [List.eq_of_mem_replicate zero]
    decide
  · exact isDigit_of_mem_decimal digit

/-- Padding does not change the number that is read. -/
theorem decimal?_padded {width n : Nat} (hw : 0 < width) (h : n < 10 ^ width) :
    decimal? (padded width n) = some n := by
  have shape : (!(padded width n).isEmpty && (padded width n).all Char.isDigit) = true := by
    simp only [Bool.and_eq_true, Bool.not_eq_true', List.isEmpty_eq_false_iff, List.all_eq_true]
    refine ⟨?_, fun _ hc => isDigit_of_mem_padded hc⟩
    intro empty
    have len := length_padded hw h
    rw [empty, List.length_nil] at len
    omega
  rw [decimal?, if_pos shape, ofDecimal_padded]

/-- Names numbered with one stem are told apart by their numbers. -/
theorem append_toString_inj {stem : String} {m n : Nat}
    (h : stem ++ toString m = stem ++ toString n) : m = n := by
  have chars := congrArg String.toList h
  rw [String.toList_append, String.toList_append] at chars
  have digits : Nat.toDigits 10 m = Nat.toDigits 10 n := by
    simpa only [Nat.toString_eq_repr, Nat.toList_repr] using List.append_cancel_left chars
  rw [← ofDecimal_decimal m, ← ofDecimal_decimal n]
  exact congrArg ofDecimal digits

/-! ## Hexadecimal -/

/-- The last digit of a numeral is the remainder, and the others are the numeral of the quotient. -/
theorem hex_eq (n : Nat) :
    hex n = if n < 16 then [n.digitChar] else hex (n / 16) ++ [(n % 16).digitChar] :=
  Nat.toDigits_eq_if (by decide)

/-- A hexadecimal digit is read as what it stands for. -/
theorem hexDigit?_digitChar {d : Nat} (h : d < 16) : hexDigit? d.digitChar = some d := by
  revert d
  decide

/-- One more digit at the end. -/
theorem hex?_concat {cs : List Char} {n d : Nat} (read : hex? cs = some n) (h : d < 16) :
    hex? (cs ++ [d.digitChar]) = some (16 * n + d) := by
  rw [hex?, List.foldlM_append, ← hex?, read]
  simp [hexDigit?_digitChar h]

/-- Any number of zeros is read as zero. -/
theorem hex?_zeros (k : Nat) : hex? (List.replicate k '0') = some 0 := by
  induction k with
  | zero => rfl
  | succ k ih =>
      rw [List.replicate_succ']
      exact hex?_concat (d := 0) ih (by decide)

/-- Zeros in front do not change a number. -/
theorem hex?_zeros_append (k n : Nat) : hex? (List.replicate k '0' ++ hex n) = some n := by
  induction n using Nat.strongRecOn with
  | ind n ih =>
      rw [hex_eq]
      by_cases small : n < 16
      · rw [if_pos small, hex?_concat (hex?_zeros k) small, Nat.mul_zero, Nat.zero_add]
      · rw [if_neg small, ← List.append_assoc, hex?_concat (ih (n / 16) (by omega)) (by omega),
          Nat.div_add_mod]

/-- A number written in hexadecimal is read back. -/
theorem hex?_hex (n : Nat) : hex? (hex n) = some n := hex?_zeros_append 0 n

/-- Zeros in front of a hexadecimal number are read over. -/
theorem hex?_leftpad (width n : Nat) : hex? ((hex n).leftpad width '0') = some n :=
  hex?_zeros_append _ n

theorem hex_ne_nil (n : Nat) : hex n ≠ [] := Nat.toDigits_ne_nil

/-- A number below a power of sixteen has at most so many hexadecimal digits. -/
theorem length_hex_le {n k : Nat} (hk : 0 < k) (h : n < 16 ^ k) : (hex n).length ≤ k :=
  (Nat.length_toDigits_le_iff (by decide) hk).mpr h

/-- A character that no digit is written as stands in no numeral. -/
theorem not_mem_hex {c : Char} (other : ∀ d < 16, c ≠ Nat.digitChar d) (n : Nat) : c ∉ hex n := by
  induction n using Nat.strongRecOn with
  | ind n ih =>
      rw [hex_eq]
      split
      · next small => rw [List.mem_singleton]; exact other n small
      · rw [List.mem_append, List.mem_singleton]
        rintro (front | last)
        · exact ih (n / 16) (by omega) front
        · exact other (n % 16) (by omega) last

end Overlay.Text
