import Overlay.Proofs.Text.Numerals

/-!
# The order of texts

Texts are in the order of their first difference. Where a number is padded to a fixed width, the
order of the texts is the order of the numbers; where trailing zeros are cut off, it still is, as
long as what follows the digits comes before all digits.

Main statements: `padded_append_lt`, `append_lt_append_of_zeros`, and `bytes_lt_iff`: the order of
texts is the order of their bytes.
-/

namespace Overlay.Text

/-- What comes first decides, if it is as long in both texts. -/
theorem append_lt_append {a b : List Char} (len : a.length = b.length) (h : a < b)
    (x y : List Char) : a ++ x < b ++ y := by
  induction a generalizing b with
  | nil =>
      rw [List.length_nil, eq_comm, List.length_eq_zero_iff] at len
      subst len
      exact absurd h (List.lt_irrefl [])
  | cons c cs ih =>
      cases b with
      | nil => exact nomatch len
      | cons d ds =>
          rw [List.cons_append, List.cons_append, List.cons_lt_cons_iff]
          rcases List.cons_lt_cons_iff.mp h with first | ⟨same, rest⟩
          · exact Or.inl first
          · exact Or.inr ⟨same, ih (Nat.succ.inj len) rest⟩

/-! ## Digits -/

/-- The first digit counts for as many powers of ten as digits follow. -/
theorem ofDecimal_cons (c : Char) (cs : List Char) :
    ofDecimal (c :: cs) = 10 ^ cs.length * (c.toNat - 48) + ofDecimal cs := by
  rw [ofDecimal, Nat.ofDigitChars_cons, Nat.mul_zero, Nat.zero_add,
    Nat.ofDigitChars_eq_ofDigitChars_zero]
  rfl

/-- A number has no more digits than are read. -/
theorem ofDecimal_lt {cs : List Char} (h : ∀ c ∈ cs, c.isDigit = true) :
    ofDecimal cs < 10 ^ cs.length := by
  induction cs with
  | nil => decide
  | cons c rest ih =>
      obtain ⟨here, there⟩ := List.forall_mem_cons.mp h
      have digit : c.toNat - 48 ≤ 9 := by
        have bounds := toNat_of_isDigit here
        omega
      have most := Nat.mul_le_mul_left (10 ^ rest.length) digit
      have tail := ih there
      rw [ofDecimal_cons, List.length_cons, Nat.pow_succ]
      omega

/-- Of two runs of digits of one length, the one with the smaller number comes first. -/
theorem lt_of_ofDecimal_lt {a b : List Char} (ha : ∀ c ∈ a, c.isDigit = true)
    (hb : ∀ c ∈ b, c.isDigit = true) (len : a.length = b.length)
    (h : ofDecimal a < ofDecimal b) : a < b := by
  induction a generalizing b with
  | nil =>
      rw [List.length_nil, eq_comm, List.length_eq_zero_iff] at len
      subst len
      exact absurd h (Nat.lt_irrefl _)
  | cons c cs ih =>
      cases b with
      | nil => exact nomatch len
      | cons d ds =>
          obtain ⟨hc, hcs⟩ := List.forall_mem_cons.mp ha
          obtain ⟨hd, hds⟩ := List.forall_mem_cons.mp hb
          have rest : cs.length = ds.length := Nat.succ.inj len
          rw [ofDecimal_cons, ofDecimal_cons, rest] at h
          have cBounds := toNat_of_isDigit hc
          have dBounds := toNat_of_isDigit hd
          rw [List.cons_lt_cons_iff]
          rcases Nat.lt_trichotomy c.toNat d.toNat with first | same | later
          · exact Or.inl first
          · rw [same] at h
            exact Or.inr ⟨Char.toNat_inj.mp same, ih hcs hds rest (by omega)⟩
          · -- the digit in front outweighs all that follow
            have front : d.toNat - 48 + 1 ≤ c.toNat - 48 := by omega
            have weight := Nat.mul_le_mul_left (10 ^ ds.length) front
            have tail := ofDecimal_lt hds
            rw [Nat.mul_add] at weight
            omega

/-- Numbers of one width decide; if they are the same, what follows them does. -/
theorem padded_append_lt {width m n : Nat} {x y : List Char} (hw : 0 < width)
    (fits : n < 10 ^ width) (h : m < n ∨ m = n ∧ x < y) :
    padded width m ++ x < padded width n ++ y := by
  rcases h with less | ⟨rfl, rest⟩
  · have len : (padded width m).length = (padded width n).length := by
      rw [length_padded hw fits, length_padded hw (Nat.lt_trans less fits)]
    have smaller : ofDecimal (padded width m) < ofDecimal (padded width n) := by
      rw [ofDecimal_padded, ofDecimal_padded]
      exact less
    exact append_lt_append len (lt_of_ofDecimal_lt (fun _ => isDigit_of_mem_padded)
      (fun _ => isDigit_of_mem_padded) len smaller) x y
  · exact List.append_left_lt rest

/-- The same with a separator behind the numbers. -/
theorem padded_cons_lt {width m n : Nat} {x y : List Char} (separator : Char) (hw : 0 < width)
    (fits : n < 10 ^ width) (h : m < n ∨ m = n ∧ x < y) :
    padded width m ++ separator :: x < padded width n ++ separator :: y := by
  refine padded_append_lt hw fits (h.imp_right fun ⟨same, rest⟩ => ⟨same, ?_⟩)
  exact List.cons_lt_cons_iff.mpr (Or.inr ⟨rfl, rest⟩)

/-! ## Trailing zeros -/

/-- No digits are smaller than as many zeros. -/
theorem not_lt_zeros {a : List Char} (ha : ∀ c ∈ a, c.isDigit = true) (j : Nat) :
    ¬ a ++ List.replicate j '0' < List.replicate (a.length + j) '0' := by
  induction a with
  | nil =>
      rw [List.length_nil, Nat.zero_add]
      exact List.lt_irrefl _
  | cons c cs ih =>
      obtain ⟨here, there⟩ := List.forall_mem_cons.mp ha
      rw [List.length_cons, Nat.add_right_comm, List.replicate_succ, List.cons_append,
        List.cons_lt_cons_iff]
      rintro (first | ⟨-, rest⟩)
      · have small : c.toNat < 48 := first
        have bounds := toNat_of_isDigit here
        omega
      · exact ih there rest

/-- Digits whose trailing zeros are cut off keep their order if they are followed by a character
that comes before all digits. -/
theorem append_lt_append_of_zeros {a b : List Char} {stop : Char} (early : stop < '0')
    (ha : ∀ c ∈ a, c.isDigit = true) (hb : ∀ c ∈ b, c.isDigit = true) {j k : Nat}
    (len : a.length + j = b.length + k)
    (h : a ++ List.replicate j '0' < b ++ List.replicate k '0') (x y : List Char) :
    a ++ stop :: x < b ++ stop :: y := by
  induction a generalizing b with
  | nil =>
      cases b with
      | nil =>
          have same : j = k := Nat.add_left_cancel len
          subst same
          exact absurd h (List.lt_irrefl _)
      | cons d ds =>
          -- the first text stops here, and what it stops with is smaller than any digit
          have digit := toNat_of_isDigit (List.forall_mem_cons.mp hb).1
          have stops : stop.toNat < 48 := early
          rw [List.nil_append, List.cons_append, List.cons_lt_cons_iff]
          exact Or.inl (show stop.toNat < d.toNat by omega)
  | cons c cs ih =>
      obtain ⟨hc, hcs⟩ := List.forall_mem_cons.mp ha
      cases b with
      | nil =>
          -- the second text has only zeros left, and nothing is smaller than these
          rw [List.length_nil, Nat.zero_add] at len
          rw [List.nil_append, ← len] at h
          exact absurd h (not_lt_zeros ha j)
      | cons d ds =>
          rw [List.cons_append, List.cons_append, List.cons_lt_cons_iff] at h ⊢
          rcases h with first | ⟨same, rest⟩
          · exact Or.inl first
          · rw [List.length_cons, List.length_cons] at len
            exact Or.inr ⟨same, ih hcs (List.forall_mem_cons.mp hb).2 (by omega) rest⟩

/-! ## Bytes -/

/-- The bytes of a text. -/
def bytes (s : String) : List UInt8 := s.toByteArray.data.toList

theorem bytes_eq (s : String) : bytes s = s.toList.flatMap String.utf8EncodeChar := by
  rw [bytes, ← String.utf8Encode_toList, List.utf8Encode, List.toList_data_toByteArray]

/-- A code point has at most 21 bits. -/
theorem toNat_lt (c : Char) : c.toNat < 0x110000 := by
  rcases c.valid with low | ⟨_, high⟩
  · exact Nat.lt_trans low (by decide)
  · exact high

/-- Numbers are in the order of their digits to the base 64. -/
theorem digits_lt {m n : Nat} (h : m < n) :
    m / 262144 < n / 262144 ∨ m / 262144 = n / 262144 ∧
      (m / 4096 % 64 < n / 4096 % 64 ∨ m / 4096 % 64 = n / 4096 % 64 ∧
        (m / 64 % 64 < n / 64 % 64 ∨ m / 64 % 64 = n / 64 % 64 ∧ m % 64 < n % 64)) := by
  have hm : m / 262144 = m / 64 / 64 / 64 := by omega
  have hn : n / 262144 = n / 64 / 64 / 64 := by omega
  have hm' : m / 4096 = m / 64 / 64 := by omega
  have hn' : n / 4096 = n / 64 / 64 := by omega
  rw [hm, hn, hm', hn']
  omega

/-- A smaller character has smaller bytes, whatever follows. -/
theorem utf8EncodeChar_append_lt {c d : Char} (h : c < d) (x y : List UInt8) :
    String.utf8EncodeChar c ++ x < String.utf8EncodeChar d ++ y := by
  have less : c.toNat < d.toNat := h
  have digits := digits_lt less
  have first : d.toNat / 262144 < 8 := by
    have bound := toNat_lt d
    omega
  have first' : c.toNat / 262144 < 8 := by omega
  have byte : ∀ {k : Nat}, k < 256 → (UInt8.ofNat k).toNat = k := UInt8.toNat_ofNat_of_lt'
  rw [String.utf8EncodeChar, String.utf8EncodeChar, Char.toNat_val, Char.toNat_val,
    Nat.mod_eq_of_lt first, Nat.mod_eq_of_lt first']
  generalize c.toNat = m at *
  generalize d.toNat = n at *
  -- Of two widths the greater one starts with the greater byte; within a width the digits decide.
  repeat' split
  all_goals
    simp (disch := omega) only [List.cons_append, List.nil_append, List.cons_lt_cons_iff,
      UInt8.lt_iff_toNat_lt, ← UInt8.toNat_inj, byte]
    omega

/-- Characters in order are encoded in order. -/
theorem flatMap_utf8EncodeChar_lt {a b : List Char} (h : a < b) :
    a.flatMap String.utf8EncodeChar < b.flatMap String.utf8EncodeChar := by
  induction a generalizing b with
  | nil =>
      cases b with
      | nil => exact absurd h (List.lt_irrefl [])
      | cons d ds =>
          obtain ⟨byte, more, code⟩ := List.exists_cons_of_ne_nil
            (List.ne_nil_of_length_pos (String.length_utf8EncodeChar d ▸ d.utf8Size_pos))
          rw [List.flatMap_nil, List.flatMap_cons, code, List.cons_append]
          exact List.nil_lt_cons byte _
  | cons c cs ih =>
      cases b with
      | nil => exact absurd h (List.not_lt_nil _)
      | cons d ds =>
          rw [List.flatMap_cons, List.flatMap_cons]
          rcases List.cons_lt_cons_iff.mp h with first | ⟨rfl, rest⟩
          · exact utf8EncodeChar_append_lt first _ _
          · exact List.append_left_lt (ih rest)

/-- Texts in order have their bytes in order. -/
theorem bytes_lt {s t : String} (h : s < t) : bytes s < bytes t := by
  rw [bytes_eq, bytes_eq]
  exact flatMap_utf8EncodeChar_lt h

/-- Two texts are in order one way or the other, or equal. -/
theorem lt_trichotomy (s t : String) : s < t ∨ s = t ∨ t < s := by
  by_cases less : s < t
  · exact Or.inl less
  · by_cases greater : t < s
    · exact Or.inr (Or.inr greater)
    · exact Or.inr (Or.inl (String.le_antisymm (String.not_lt.mp greater) (String.not_lt.mp less)))

/-- Texts are in the order of their bytes. -/
theorem bytes_lt_iff {s t : String} : bytes s < bytes t ↔ s < t := by
  refine ⟨fun h => ?_, bytes_lt⟩
  rcases lt_trichotomy s t with less | rfl | greater
  · exact less
  · exact absurd h (List.lt_irrefl _)
  · exact absurd (bytes_lt greater) (List.lt_asymm h)

end Overlay.Text
