import Overlay.Controller.Objects
import Overlay.Settings.Basic
import Overlay.Store.Record
import Overlay.Tenant.Basic

/-!
# Static bindings

An address of an instance port in a subnet served by DHCP is either bound on the network's server or
not. `transition` gives the one change that takes an address from what the store remembers to what
the port should have.
-/

namespace Overlay.Dhcp

/-- An address that a port should have bound. -/
structure Desired where
  subnetId : String
  address : IPv4
  macAddress : String
  deriving DecidableEq, Repr

/-- What the settings say about every binding. -/
structure Template where
  metadataRoute : Cidr4
  leaseTime : UInt32
  deriving DecidableEq, Repr

/-- The template that follows from settings. -/
def Template.ofSettings (s : Settings) : Template := ⟨s.metadataRoute, s.leaseTime⟩

/-- The host name of an address: `host-10-0-0-3` for `10.0.0.3`. -/
def hostName (ip : IPv4) : String := String.ofList ("host-".toList ++ ip.joined '-')

namespace Template

/-- Options for an address: metadata traffic goes to the instance itself. -/
def options (t : Template) (ip : IPv4) : DhcpOptions :=
  .ofRoutes [⟨.v4 t.metadataRoute, .v4 ip⟩]

/-- The request that binds an address. -/
def request (t : Template) (d : Desired) : BindingRequest :=
  ⟨d.macAddress, d.address, hostName d.address, t.leaseTime, t.options d.address⟩

end Template

/-- A change of one binding. -/
inductive Change where
  /-- Nothing to do. -/
  | keep
  /-- An address is to be bound. -/
  | create (desired : Desired)
  /-- A bound address is to have another address or MAC address. -/
  | update (current : Store.Binding) (desired : Desired) (update : BindingUpdate)
  /-- A bound address is to be let go. -/
  | delete (current : Store.Binding)
  deriving DecidableEq, Repr

/-- What to change about a binding: the MAC address if it differs, and with the address also the
host name and the options that follow from it. -/
def updateFor (current : Store.Binding) (desired : Desired) (t : Template) : BindingUpdate :=
  let moved := current.address ≠ desired.address
  { macAddress := if current.macAddress ≠ desired.macAddress then some desired.macAddress else none
    address := if moved then some desired.address else none
    hostName := if moved then some (hostName desired.address) else none
    options := if moved then some (t.options desired.address) else none }

/-- The change that takes one address from what it is to what it should be. -/
def transition (current : Option Store.Binding) (desired : Option Desired) (t : Template) :
    Change :=
  match current, desired with
  | none, none => .keep
  | none, some d => .create d
  | some b, none => .delete b
  | some b, some d =>
    let u := updateFor b d t
    if u.isEmpty then .keep else .update b d u

/-- The addresses that a port should have bound: the IPv4 addresses of an instance port in the given
subnets, in order. -/
def desiredBindings (p : Port) (subnetIds : List String) : List Desired :=
  if p.isCompute then
    (p.ipv4s.filter fun f => f.1 ∈ subnetIds).map fun (subnetId, ip) =>
      ⟨subnetId, ip, p.macAddress⟩
  else []

end Overlay.Dhcp
