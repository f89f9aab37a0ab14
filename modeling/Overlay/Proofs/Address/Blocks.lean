import Overlay.Address.Cidr
import Overlay.Proofs.Address.Groups

/-!
# Addresses and blocks

The written form of an address of either family is read back strictly, and that of a block with its
host bits as they are. An address holds no slash, so the only slash of a block stands in front of
its length; an IPv6 address holds a colon, so nothing of it is taken for IPv4.

Main statements: `Address.parse?_render`, `Cidr4.parse?_render` and `Cidr.parse?_render`.
-/

namespace Overlay

/-- An IPv6 address is not taken for one of IPv4, since it holds a colon. -/
theorem IPv6.v4_ofChars?_chars (rule : Leniency) (ip : IPv6) :
    IPv4.ofChars? rule ip.chars = none :=
  IPv4.ofChars?_eq_none_of_mem ip.colon_mem_chars (by decide) (by decide)

/-- Every address is read back from its text. -/
theorem Address.parse?_render (a : Address) : parse? a.render = some a := by
  rw [parse?, render, String.toList_ofList, ofChars?]
  cases a with
  | v4 ip => rw [chars, IPv4.ofChars?_chars]
  | v6 ip =>
      rw [chars, IPv6.v4_ofChars?_chars, IPv6.ofChars?_chars]
      rfl

/-- A block length that fits is read back. -/
theorem blockLength?_decimal {digits width n : Nat} (some_digits : 0 < digits)
    (room : width < 10 ^ digits) (h : n ≤ width) :
    blockLength? digits width (Text.decimal n) = some ⟨n, h⟩ := by
  have short : (Text.decimal n).length ≤ digits :=
    Text.length_decimal_le some_digits (Nat.lt_of_le_of_lt h room)
  rw [blockLength?, Text.decimal?_decimal]
  dsimp only
  rw [dif_pos h, if_pos short]

/-- A slash behind an address is the only one in front of a numeral. -/
theorem splitSlash?_append {address : List Char} (h : '/' ∉ address) (n : Nat) :
    splitSlash? (address ++ '/' :: Text.decimal n) = some (address, Text.decimal n) := by
  rw [splitSlash?, List.splitOn_append_cons_self_of_not_mem h,
    List.splitOn_eq_singleton (Text.not_mem_decimal (by decide))]

theorem Cidr4.ofChars?_chars (b : Cidr4) : ofChars? b.chars = some b := by
  have plain := IPv4.not_mem_chars (c := '/') (by decide) (by decide) b.address
  rw [ofChars?, chars, splitSlash?_append plain]
  dsimp only
  rw [IPv4.ofChars?_chars, blockLength?_decimal (by decide) (by decide) b.length_le]

/-- An IPv4 block is read back with its host bits as they are. -/
theorem Cidr4.parse?_render (b : Cidr4) : parse? b.render = some b := by
  rw [parse?, render, String.toList_ofList]
  exact ofChars?_chars b

theorem Cidr6.ofChars?_chars (b : Cidr6) : ofChars? b.chars = some b := by
  rw [ofChars?, chars, splitSlash?_append b.address.slash_not_mem_chars]
  dsimp only
  rw [IPv6.ofChars?_chars, blockLength?_decimal (by decide) (by decide) b.length_le]

/-- An IPv6 block is none of IPv4. -/
theorem Cidr6.v4_ofChars?_chars (b : Cidr6) : Cidr4.ofChars? b.chars = none := by
  rw [Cidr4.ofChars?, chars, splitSlash?_append b.address.slash_not_mem_chars]
  dsimp only
  rw [IPv6.v4_ofChars?_chars]

/-- A block of either family is read back, in its family. -/
theorem Cidr.parse?_render (b : Cidr) : parse? b.render = some b := by
  rw [parse?, render, String.toList_ofList]
  cases b with
  | v4 b => rw [chars, Cidr4.ofChars?_chars]
  | v6 b =>
      rw [chars, Cidr6.v4_ofChars?_chars, Cidr6.ofChars?_chars]
      rfl

end Overlay
