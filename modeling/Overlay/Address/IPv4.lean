import Overlay.Text.Decimal

/-!
# IPv4 addresses

Four octets, written as a dotted quad of decimal numbers. An address on its own is read strictly:
an octet is never padded with zeros. Where an address stands in front of a block length, zeros may
pad an octet to three digits; `Leniency` says which of the two rules a reader follows.
-/

namespace Overlay

/-- What a reader of addresses lets pass beyond the one spelling that is written back. -/
structure Leniency where
  /-- An octet may be padded with zeros, up to three digits in all. -/
  paddedOctets : Bool
  /-- The double colon may stand for no group at all. -/
  emptyGap : Bool
  deriving DecidableEq, Repr

/-- The rule for an address that stands alone. -/
def Leniency.strict : Leniency := ⟨false, false⟩

/-- The rule for an address in front of a block length. -/
def Leniency.lenient : Leniency := ⟨true, true⟩

/-- An IPv4 address as its four octets, first to last. -/
structure IPv4 where
  a : UInt8
  b : UInt8
  c : UInt8
  d : UInt8
  deriving DecidableEq, Repr

namespace IPv4

/-- The address of no host, `0.0.0.0`. -/
def unspecified : IPv4 := ⟨0, 0, 0, 0⟩

/-- The four octets in order. -/
def octets (ip : IPv4) : List UInt8 := [ip.a, ip.b, ip.c, ip.d]

/-- The address as a number below `2 ^ 32`, first octet highest. -/
def toNat (ip : IPv4) : Nat :=
  ((ip.a.toNat * 256 + ip.b.toNat) * 256 + ip.c.toNat) * 256 + ip.d.toNat

/-- The address whose number is `n`, taken modulo `2 ^ 32`. -/
def ofNat (n : Nat) : IPv4 :=
  ⟨UInt8.ofNat (n >>> 24), UInt8.ofNat (n >>> 16), UInt8.ofNat (n >>> 8), UInt8.ofNat n⟩

/-- The octets in decimal with `separator` between them. -/
def joined (separator : Char) (ip : IPv4) : List Char :=
  Text.decimal ip.a.toNat ++ separator :: (Text.decimal ip.b.toNat ++
    separator :: (Text.decimal ip.c.toNat ++ separator :: Text.decimal ip.d.toNat))

/-- The dotted quad. -/
def chars (ip : IPv4) : List Char := ip.joined '.'

/-- The dotted quad as text. -/
def render (ip : IPv4) : String := String.ofList ip.chars

/-- One octet: one to three decimal digits below 256, without a leading zero unless that is allowed
or the octet is `0` itself. -/
def octet? (rule : Leniency) (cs : List Char) : Option UInt8 :=
  match Text.decimal? cs with
  | none => none
  | some n =>
    if cs.length ≤ 3 && n < 256 && (rule.paddedOctets || cs.length == 1 || cs.head? != some '0')
    then some (UInt8.ofNat n)
    else none

/-- A dotted quad of four octets, and nothing else. -/
def ofChars? (rule : Leniency) (cs : List Char) : Option IPv4 :=
  match (cs.splitOn '.').mapM (octet? rule) with
  | some [a, b, c, d] => some ⟨a, b, c, d⟩
  | _ => none

/-- The address that a text spells strictly. -/
def parse? (s : String) : Option IPv4 := ofChars? .strict s.toList

end IPv4

end Overlay
