import Overlay.Dhcp.Binding

/-!
# Plans

How the bindings that a port has are turned into those it should have. Bindings whose subnet and
address stay are paired with themselves. If what is left over on both sides names the same subnets
in the same order, addresses have moved inside their subnets and are paired in that order; otherwise
what is left over is let go on one side and newly bound on the other.
-/

namespace Overlay.Dhcp

/-- A binding that a port has, beside one that it should have. -/
abbrev Pair := Option Store.Binding × Option Desired

/-- Whether the two sides have the same subnet and address. -/
def sameAddress (b : Store.Binding) (d : Desired) : Bool :=
  d.subnetId = b.subnetId && d.address = b.address

/-- Bindings paired by subnet and address, and what is left over on either side. -/
structure Matching where
  matched : List (Store.Binding × Desired)
  removed : List Store.Binding
  added : List Desired
  deriving DecidableEq, Repr

/-- Pairs each binding with the first equal address that is still free. -/
def matchAddresses : List Store.Binding → List Desired → Matching
  | [], desired => ⟨[], [], desired⟩
  | b :: current, desired =>
    match desired.find? (sameAddress b) with
    | some d =>
      let m := matchAddresses current (desired.eraseP (sameAddress b))
      { m with matched := (b, d) :: m.matched }
    | none =>
      let m := matchAddresses current desired
      { m with removed := b :: m.removed }

/-- Whether both sides name the same subnets in the same order. -/
def sameSubnets (removed : List Store.Binding) (added : List Desired) : Bool :=
  removed.map (·.subnetId) == added.map (·.subnetId)

/-- Pairs the bindings that a port has with those it should have. -/
def pairBindings (current : List Store.Binding) (desired : List Desired) : List Pair :=
  let m := matchAddresses current desired
  let kept := m.matched.map fun (b, d) => (some b, some d)
  if sameSubnets m.removed m.added then
    kept ++ (m.removed.zip m.added).map fun (b, d) => (some b, some d)
  else
    kept ++ m.removed.map (fun b => (some b, none)) ++ m.added.map (fun d => (none, some d))

/-- The changes that turn the bindings that a port has into those it should have. -/
def plan (current : List Store.Binding) (desired : List Desired) (t : Template) : List Change :=
  ((pairBindings current desired).map fun (b, d) => transition b d t).filter (· ≠ .keep)

/-- Whether the change binds an address that was not bound. -/
def Change.isCreate : Change → Bool
  | .create _ => true
  | _ => false

end Overlay.Dhcp
