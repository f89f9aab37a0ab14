import Mathlib.Data.List.Basic
import Overlay.Address.IPv4
import Overlay.Proofs.Text.Numerals

/-!
# Dotted quads

The dotted quad of an IPv4 address is read back strictly, and nothing else is: an octet that may not
be padded has one spelling. Octets have one to three digits, so what tells them apart in a quad is
the separator, whichever it is.

Main statements: `parse?_eq_some_iff`, a text is read as an address if and only if it is its dotted
quad, `render_inj`, no two addresses are written alike, and `joined_inj`, nor are they with another
separator.
-/

namespace Overlay.IPv4

/-- An octet has at most three digits. -/
theorem length_octet_le (a : UInt8) : (Text.decimal a.toNat).length ≤ 3 := by
  have small : a.toNat < 256 := a.toNat_lt
  exact Text.length_decimal_le (by decide) (by omega)

/-- An octet is read back under every rule. -/
theorem octet?_decimal (rule : Leniency) (a : UInt8) :
    octet? rule (Text.decimal a.toNat) = some a := by
  have small : a.toNat < 256 := a.toNat_lt
  have short : (Text.decimal a.toNat).length ≤ 3 := length_octet_le a
  have plain : ((Text.decimal a.toNat).length == 1 ||
      (Text.decimal a.toNat).head? != some '0') = true := by
    by_cases zero : a.toNat = 0
    · rw [zero]; decide
    · rw [Bool.or_eq_true, bne_iff_ne]
      exact Or.inr (Text.head?_decimal (Nat.pos_of_ne_zero zero))
  have allowed : (decide ((Text.decimal a.toNat).length ≤ 3) && decide (a.toNat < 256) &&
      (rule.paddedOctets || (Text.decimal a.toNat).length == 1 ||
        (Text.decimal a.toNat).head? != some '0')) = true := by
    rw [Bool.or_assoc, plain, decide_eq_true short, decide_eq_true small, Bool.or_true]
    rfl
  rw [octet?, Text.decimal?_decimal]
  show (if _ then _ else _) = _
  rw [if_pos allowed, UInt8.ofNat_toNat]

/-- The separators of a quad stand between its octets and nowhere else. -/
theorem splitOn_joined {separator : Char} (h : separator.isDigit = false) (ip : IPv4) :
    (ip.joined separator).splitOn separator = ip.octets.map (Text.decimal ·.toNat) := by
  rw [joined, List.splitOn_append_cons_self_of_not_mem (Text.not_mem_decimal h),
    List.splitOn_append_cons_self_of_not_mem (Text.not_mem_decimal h),
    List.splitOn_append_cons_self_of_not_mem (Text.not_mem_decimal h),
    List.splitOn_eq_singleton (Text.not_mem_decimal h)]
  rfl

/-- The characters of an address are read back, by either rule. -/
theorem ofChars?_chars (rule : Leniency) (ip : IPv4) : ofChars? rule ip.chars = some ip := by
  rw [ofChars?, chars, splitOn_joined (by decide)]
  simp [octets, octet?_decimal]

/-- An address is read back. -/
theorem parse?_render (ip : IPv4) : parse? ip.render = some ip := by
  rw [parse?, render, String.toList_ofList]
  exact ofChars?_chars .strict ip

/-- No two addresses are written alike. -/
theorem render_inj {ip ip' : IPv4} (h : ip.render = ip'.render) : ip = ip' := by
  have read : parse? ip.render = parse? ip'.render := congrArg parse? h
  rw [parse?_render, parse?_render] at read
  exact Option.some.inj read

/-! ## One spelling -/

/-- Read strictly, an octet has one spelling. -/
theorem octet?_strict_eq_some_iff {cs : List Char} {a : UInt8} :
    octet? .strict cs = some a ↔ cs = Text.decimal a.toNat := by
  constructor
  · intro read
    rw [octet?] at read
    split at read
    · cases read
    · next n value =>
      obtain ⟨some_digits, digits, rfl⟩ := Text.digits_of_decimal? value
      split at read
      · next allowed =>
        simp only [Leniency.strict, Bool.false_or, Bool.and_eq_true, Bool.or_eq_true,
          decide_eq_true_iff, beq_iff_eq, bne_iff_ne] at allowed
        obtain ⟨⟨-, small⟩, plain⟩ := allowed
        rw [← Option.some.inj read, UInt8.toNat_ofNat', Nat.mod_eq_of_lt small]
        exact (Text.decimal_ofDecimal some_digits digits plain).symm
      · cases read
  · rintro rfl
    exact octet?_decimal .strict a

/-- Octets that are read strictly are written as they were read. -/
theorem eq_map_of_mapM_octet? {parts : List (List Char)} {octets : List UInt8}
    (read : parts.mapM (octet? .strict) = some octets) :
    parts = octets.map (Text.decimal ·.toNat) := by
  induction parts generalizing octets with
  | nil =>
      obtain rfl : [] = octets := Option.some.inj read
      rfl
  | cons part parts ih =>
      rw [List.mapM_cons] at read
      obtain ⟨a, first, read⟩ := Option.bind_eq_some_iff.mp read
      obtain ⟨rest, others, same⟩ := Option.bind_eq_some_iff.mp read
      obtain rfl : a :: rest = octets := Option.some.inj same
      rw [List.map_cons, ← ih others, ← octet?_strict_eq_some_iff.mp first]

/-- Characters are read strictly as an address exactly if they are its characters. -/
theorem ofChars?_strict_eq_some_iff {cs : List Char} {ip : IPv4} :
    ofChars? .strict cs = some ip ↔ cs = ip.chars := by
  constructor
  · intro read
    rw [ofChars?] at read
    split at read
    · next a b c d quad =>
      obtain rfl : ⟨a, b, c, d⟩ = ip := Option.some.inj read
      have parts : cs.splitOn '.' = (IPv4.mk a b c d).chars.splitOn '.' := by
        rw [eq_map_of_mapM_octet? quad, chars, splitOn_joined (by decide)]
        rfl
      -- A text is what its parts are with the separator between them.
      have whole : ['.'].intercalate (cs.splitOn '.') = cs := List.intercalate_splitOn '.'
      rw [← whole, parts, List.intercalate_splitOn]
    · cases read
  · rintro rfl
    exact ofChars?_chars .strict ip

/-- A text is read as an address exactly if it is the address written. -/
theorem parse?_eq_some_iff {s : String} {ip : IPv4} : parse? s = some ip ↔ s = ip.render := by
  rw [parse?, ofChars?_strict_eq_some_iff, render, ← String.toList_inj, String.toList_ofList]

/-- A text is no address exactly if no address is written so. -/
theorem parse?_eq_none_iff {s : String} : parse? s = none ↔ ∀ ip : IPv4, s ≠ ip.render := by
  rw [Option.eq_none_iff_forall_ne_some]
  exact forall_congr' fun ip => not_congr parse?_eq_some_iff

/-! ## Any separator -/

section Joined

variable {separator : Char}

/-- No two addresses are joined alike, whatever stands between the octets. -/
theorem joined_inj (h : separator.isDigit = false) {ip ip' : IPv4}
    (same : ip.joined separator = ip'.joined separator) : ip = ip' := by
  have parts := congrArg (List.splitOn separator) same
  rw [splitOn_joined h, splitOn_joined h] at parts
  have apart : Function.Injective fun a : UInt8 => Text.decimal a.toNat :=
    fun a b eq => UInt8.toNat_inj.mp (Text.decimal_injective eq)
  have octets : ip.octets = ip'.octets := List.map_injective_iff.mpr apart parts
  cases ip
  cases ip'
  simpa [IPv4.octets] using octets

/-- Four octets with what stands between them have at most fifteen characters. -/
theorem length_joined_le (ip : IPv4) : (ip.joined separator).length ≤ 15 := by
  have a := length_octet_le ip.a
  have b := length_octet_le ip.b
  have c := length_octet_le ip.c
  have d := length_octet_le ip.d
  simp only [joined, List.length_append, List.length_cons]
  omega

/-- A joined address consists of digits and separators. -/
theorem mem_joined {c : Char} {ip : IPv4} (h : c ∈ ip.joined separator) :
    c.isDigit = true ∨ c = separator := by
  have digit := fun {n : Nat} (hc : c ∈ Text.decimal n) => Text.isDigit_of_mem_decimal hc
  simp only [joined, List.mem_append, List.mem_cons] at h
  rcases h with a | between | b | between | c | between | d
  · exact Or.inl (digit a)
  · exact Or.inr between
  · exact Or.inl (digit b)
  · exact Or.inr between
  · exact Or.inl (digit c)
  · exact Or.inr between
  · exact Or.inl (digit d)

/-- A quad ends with its last octet. -/
theorem joined_eq_append (separator : Char) (ip : IPv4) :
    ∃ front, ip.joined separator = front ++ Text.decimal ip.d.toNat := by
  refine ⟨Text.decimal ip.a.toNat ++ separator :: (Text.decimal ip.b.toNat ++
    separator :: (Text.decimal ip.c.toNat ++ [separator])), ?_⟩
  simp [joined]

end Joined

end Overlay.IPv4
