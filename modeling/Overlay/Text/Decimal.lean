/-!
# Decimal and hexadecimal digits

How numbers are read from a run of digits and written back: plainly, or padded with zeros to a
fixed width. Readers check the shape of the run first, so that a value never depends on a
character that is not a digit.
-/

namespace Overlay.Text

/-- The digits of `n`, without leading zeros. -/
def decimal (n : Nat) : List Char := Nat.toDigits 10 n

/-- The digits of `n`, filled up with zeros on the left to `width` characters. -/
def padded (width n : Nat) : List Char := (decimal n).leftpad width '0'

/-- The number that a run of decimal digits stands for. -/
def ofDecimal (cs : List Char) : Nat := Nat.ofDigitChars 10 cs 0

/-- The number that a nonempty run of decimal digits stands for; nothing for any other text. -/
def decimal? (cs : List Char) : Option Nat :=
  if !cs.isEmpty && cs.all Char.isDigit then some (ofDecimal cs) else none

/-- The value of a hexadecimal digit, in either case. -/
def hexDigit? (c : Char) : Option Nat :=
  if c.isDigit then some (c.toNat - '0'.toNat)
  else if 'a' ≤ c && c ≤ 'f' then some (c.toNat - 'a'.toNat + 10)
  else if 'A' ≤ c && c ≤ 'F' then some (c.toNat - 'A'.toNat + 10)
  else none

/-- The number that a run of hexadecimal digits stands for; nothing if some character is none. -/
def hex? (cs : List Char) : Option Nat :=
  cs.foldlM (fun n c => (hexDigit? c).map (16 * n + ·)) 0

/-- The hexadecimal digits of `n`, in lower case, without leading zeros. -/
def hex (n : Nat) : List Char := Nat.toDigits 16 n

theorem decimal?_decimal (n : Nat) : decimal? (decimal n) = some n := by
  have shape : (!(decimal n).isEmpty && (decimal n).all Char.isDigit) = true := by
    simp only [decimal, Bool.and_eq_true, Bool.not_eq_true', List.isEmpty_eq_false_iff,
      List.all_eq_true]
    exact ⟨Nat.toDigits_ne_nil,
      fun _ hc => Nat.isDigit_of_mem_toDigits (by decide) (by decide) hc⟩
  rw [decimal?, if_pos shape, ofDecimal, decimal, Nat.ofDigitChars_ten_toDigits]

end Overlay.Text
