import Overlay.Address.Cidr

/-!
# The tenant's view

Networks, subnets and ports as the tenant framework describes them, and what they mean for DHCP: a
port is the network's DHCP port, an instance's port, or neither, going by its device owner; only an
IPv4 subnet with DHCP switched on is served.
-/

namespace Overlay

/-- A tenant network. -/
structure Network where
  id : String
  name : String
  tenantId : String
  deriving DecidableEq, Repr

/-- A route that hosts of a subnet are told about. -/
structure HostRoute where
  destination : Cidr
  nextHop : Address
  deriving DecidableEq, Repr

/-- A subnet of a tenant network. -/
structure Subnet where
  id : String
  networkId : String
  cidr : Cidr
  dhcpEnabled : Bool
  gateway : Option Address
  nameservers : List Address
  hostRoutes : List HostRoute
  deriving DecidableEq, Repr

/-- An address that a port holds in a subnet. -/
structure FixedIp where
  subnetId : String
  address : Address
  deriving DecidableEq, Repr

/-- A port of a tenant network. -/
structure Port where
  id : String
  networkId : String
  name : String
  macAddress : String
  deviceOwner : String
  fixedIps : List FixedIp
  deriving DecidableEq, Repr

/-- Whether the subnet is one of IPv4. -/
def Subnet.isV4 (s : Subnet) : Bool := s.cidr.isV4

/-- Whether addresses of the subnet are handed out by DHCP. -/
def Subnet.servesDhcp (s : Subnet) : Bool := s.dhcpEnabled && s.isV4

namespace Port

/-- What a port is for, as far as DHCP is concerned. -/
inductive Role where
  /-- The port through which a network's DHCP server is reached. -/
  | dhcp
  /-- A port of an instance, whose addresses are bound. -/
  | compute
  | other
  deriving DecidableEq, Repr

/-- The device owner of a network's DHCP port. -/
def dhcpOwner : String := "network:dhcp"

/-- What the device owner of every instance port starts with. -/
def computeOwner : String := "compute:"

/-- The role of a port. -/
def role (p : Port) : Role :=
  if p.deviceOwner = dhcpOwner then .dhcp
  else if computeOwner.toList.isPrefixOf p.deviceOwner.toList then .compute
  else .other

/-- Whether the port belongs to an instance. -/
def isCompute (p : Port) : Bool := p.role == .compute

/-- The IPv4 addresses of a port with their subnets, in order. -/
def ipv4s (p : Port) : List (String × IPv4) :=
  p.fixedIps.filterMap fun f => f.address.v4?.map fun ip => (f.subnetId, ip)

end Port

/-- A name with an abbreviated identifier, 80 characters at most: the name gives way. -/
def label (name id : String) : String :=
  let cs := id.toList
  let short := '_' :: (cs.take 5 ++ "...".toList ++ cs.drop (cs.length - 5))
  String.ofList (name.toList.take (80 - short.length) ++ short)

end Overlay
