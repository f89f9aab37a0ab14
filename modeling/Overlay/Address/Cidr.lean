import Overlay.Address.Basic

/-!
# Address blocks

An address with the number of leading bits that count, written `address/length`. The bits behind
the length, the host bits, are kept as given; `network` clears them. Two blocks are equal only if
they are spelled alike: `10.0.0.1/24` is not `10.0.0.0/24`.
-/

namespace Overlay

/-- An IPv4 address block. -/
structure Cidr4 where
  address : IPv4
  length : Nat
  length_le : length ≤ 32
  deriving DecidableEq, Repr

/-- An IPv6 address block. -/
structure Cidr6 where
  address : IPv6
  length : Nat
  length_le : length ≤ 128
  deriving DecidableEq, Repr

/-- `n` with all but the highest `length` of `width` bits cleared. -/
def clearHostBits (width length n : Nat) : Nat := n >>> (width - length) <<< (width - length)

/-- A block length: at most `digits` decimal digits, zeros in front allowed, and at most `width`. -/
def blockLength? (digits width : Nat) (cs : List Char) : Option { n : Nat // n ≤ width } :=
  match Text.decimal? cs with
  | none => none
  | some n => if h : n ≤ width then (if cs.length ≤ digits then some ⟨n, h⟩ else none) else none

/-- The two sides of the only slash. -/
def splitSlash? (cs : List Char) : Option (List Char × List Char) :=
  match cs.splitOn '/' with
  | [address, length] => some (address, length)
  | _ => none

namespace Cidr4

/-- The block of this address and length, if the length fits. -/
def of? (address : IPv4) (length : Nat) : Option Cidr4 :=
  if h : length ≤ 32 then some ⟨address, length, h⟩ else none

/-- The block `0.0.0.0/0`, which matches every address. -/
def everything : Cidr4 := ⟨IPv4.unspecified, 0, by decide⟩

/-- The block with its host bits cleared. -/
def network (b : Cidr4) : Cidr4 :=
  { b with address := IPv4.ofNat (clearHostBits 32 b.length b.address.toNat) }

/-- The first address that a host may take: the one after the network's own, unless the block has
only one or two addresses. -/
def firstHost (b : Cidr4) : IPv4 :=
  if b.length ≤ 30 then IPv4.ofNat (b.network.address.toNat + 1) else b.network.address

/-- The written form of a block. -/
def chars (b : Cidr4) : List Char := b.address.chars ++ '/' :: Text.decimal b.length

/-- The written form of a block as text. -/
def render (b : Cidr4) : String := String.ofList b.chars

/-- The block that a run of characters spells. -/
def ofChars? (cs : List Char) : Option Cidr4 :=
  match splitSlash? cs with
  | none => none
  | some (address, length) =>
    match IPv4.ofChars? .lenient address, blockLength? 2 32 length with
    | some ip, some n => some ⟨ip, n.1, n.2⟩
    | _, _ => none

/-- The block that a text spells. -/
def parse? (s : String) : Option Cidr4 := ofChars? s.toList

end Cidr4

namespace Cidr6

/-- The block with its host bits cleared. -/
def network (b : Cidr6) : Cidr6 :=
  { b with address := IPv6.ofNat (clearHostBits 128 b.length b.address.toNat) }

/-- The written form of a block. -/
def chars (b : Cidr6) : List Char := b.address.chars ++ '/' :: Text.decimal b.length

/-- The block that a run of characters spells. -/
def ofChars? (cs : List Char) : Option Cidr6 :=
  match splitSlash? cs with
  | none => none
  | some (address, length) =>
    match IPv6.ofChars? .lenient address, blockLength? 3 128 length with
    | some ip, some n => some ⟨ip, n.1, n.2⟩
    | _, _ => none

end Cidr6

/-- An address block of either family. -/
inductive Cidr where
  | v4 (b : Cidr4)
  | v6 (b : Cidr6)
  deriving DecidableEq, Repr

namespace Cidr

/-- The number of bits that count. -/
def length : Cidr → Nat
  | .v4 b => b.length
  | .v6 b => b.length

/-- Whether the block is one of IPv4. -/
def isV4 : Cidr → Bool
  | .v4 _ => true
  | .v6 _ => false

/-- The block `0.0.0.0/0`. -/
def everything : Cidr := .v4 Cidr4.everything

/-- The block with its host bits cleared. -/
def network : Cidr → Cidr
  | .v4 b => .v4 b.network
  | .v6 b => .v6 b.network

/-- The first address that a host may take. In IPv6 that is the network's own. -/
def firstHost : Cidr → Address
  | .v4 b => .v4 b.firstHost
  | .v6 b => .v6 b.network.address

/-- The block of this address and length, if the length fits the address family. -/
def of? : Address → Nat → Option Cidr
  | .v4 ip, n => (Cidr4.of? ip n).map .v4
  | .v6 ip, n => if h : n ≤ 128 then some (.v6 ⟨ip, n, h⟩) else none

/-- The written form of a block. -/
def chars : Cidr → List Char
  | .v4 b => b.chars
  | .v6 b => b.chars

/-- The written form of a block as text. -/
def render (b : Cidr) : String := String.ofList b.chars

/-- The block that a text spells; IPv4 is tried first. -/
def parse? (s : String) : Option Cidr :=
  match Cidr4.ofChars? s.toList with
  | some b => some (.v4 b)
  | none => (Cidr6.ofChars? s.toList).map .v6

end Cidr

end Overlay
