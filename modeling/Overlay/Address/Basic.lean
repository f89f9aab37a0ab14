import Overlay.Address.IPv6

/-!
# Addresses

An address of either family. IPv4 is tried first; no text spells an address of both.
-/

namespace Overlay

/-- An IPv4 or IPv6 address. -/
inductive Address where
  | v4 (ip : IPv4)
  | v6 (ip : IPv6)
  deriving DecidableEq, Repr

namespace Address

/-- The IPv4 address, if it is one. -/
def v4? : Address → Option IPv4
  | .v4 ip => some ip
  | .v6 _ => none

/-- The written form of an address. -/
def chars : Address → List Char
  | .v4 ip => ip.chars
  | .v6 ip => ip.chars

/-- The written form of an address as text. -/
def render (a : Address) : String := String.ofList a.chars

/-- The address that a run of characters spells. -/
def ofChars? (rule : Leniency) (cs : List Char) : Option Address :=
  match IPv4.ofChars? rule cs with
  | some ip => some (.v4 ip)
  | none => (IPv6.ofChars? rule cs).map .v6

/-- The address that a text spells strictly. -/
def parse? (s : String) : Option Address := ofChars? .strict s.toList

end Address

end Overlay
