import Overlay.Address.Cidr

/-!
# Objects of the network controller

What the controller keeps for its clients: logical routers and their ports, edge clusters, NAT
rules, switch ports, DHCP servers and the static bindings under them, and the requests by which
they are made and changed.
-/

namespace Overlay

/-- A logical router. -/
structure LogicalRouter where
  id : String
  displayName : String
  edgeClusterId : Option String
  deriving DecidableEq, Repr

/-- A member of an edge cluster, known by its index. -/
structure EdgeMember where
  index : UInt32
  deriving DecidableEq, Repr

/-- The machines on which a router's services can run. -/
structure EdgeCluster where
  id : String
  members : List EdgeMember
  deriving DecidableEq, Repr

/-- What a router port joins its router to. -/
inductive RouterPortKind where
  /-- Another router. -/
  | link
  /-- A logical switch. -/
  | downlink
  deriving DecidableEq, Repr

/-- Addresses of a router port that share a block length. -/
structure AddressGroup where
  addresses : List Address
  length : UInt8
  deriving DecidableEq, Repr

/-- A request for a router port. `logicalPortId` names the switch port of a downlink, or the port of
the other router that a link is joined to. -/
structure RouterPortRequest where
  routerId : String
  displayName : String
  kind : RouterPortKind
  logicalPortId : Option String
  addressGroups : Option (List AddressGroup)
  edgeMembers : Option (List UInt32)
  deriving DecidableEq, Repr

/-- A port of a logical router. -/
structure RouterPort where
  id : String
  routerId : String
  kind : RouterPortKind
  linkedPortId : Option String
  subnets : List AddressGroup
  deriving DecidableEq, Repr

/-- Which address of a packet a rule translates. -/
inductive NatAction where
  /-- The source address. -/
  | snat
  /-- The destination address. -/
  | dnat
  deriving DecidableEq, Repr

/-- A NAT rule: the address that packets get in place of theirs. -/
structure NatRule where
  action : NatAction
  translated : Address
  priority : UInt32
  deriving DecidableEq, Repr

/-- A mark by which objects are found again. -/
structure Tag where
  scope : String
  tag : String
  deriving DecidableEq, Repr

/-- What a switch port is attached to. -/
inductive AttachmentKind where
  | interface
  | dhcp
  | metadataProxy
  deriving DecidableEq, Repr

/-- A request for a switch port. -/
structure SwitchPortRequest where
  switchId : String
  attachmentId : String
  attachmentKind : AttachmentKind
  displayName : String
  tags : List Tag
  deriving DecidableEq, Repr

/-- A port of a logical switch. -/
structure SwitchPort where
  id : String
  switchId : String
  deriving DecidableEq, Repr

/-- A route that a DHCP server hands out. -/
structure StaticRoute where
  network : Cidr
  nextHop : Address
  deriving DecidableEq, Repr

/-- Options of a DHCP answer: the classless static routes of option 121, if any are set. -/
structure DhcpOptions where
  routes : Option (List StaticRoute)
  deriving DecidableEq, Repr

/-- The description of a DHCP server. -/
structure DhcpServerConfig where
  name : String
  profileId : String
  serverIp : Cidr
  nameservers : List Address
  domainName : String
  gateway : Option Address
  options : DhcpOptions
  tags : List Tag
  deriving DecidableEq, Repr

/-- A request for a static binding. -/
structure BindingRequest where
  macAddress : String
  address : IPv4
  hostName : String
  leaseTime : UInt32
  options : DhcpOptions
  deriving DecidableEq, Repr

/-- What to change about a static binding; fields that are not given stay as they are. -/
structure BindingUpdate where
  macAddress : Option String
  address : Option IPv4
  hostName : Option String
  options : Option DhcpOptions
  deriving DecidableEq, Repr

/-- Options that set these routes. -/
def DhcpOptions.ofRoutes (routes : List StaticRoute) : DhcpOptions := ⟨some routes⟩

/-- The update that changes nothing. -/
def BindingUpdate.empty : BindingUpdate := ⟨none, none, none, none⟩

/-- Whether the update changes nothing. -/
def BindingUpdate.isEmpty (u : BindingUpdate) : Bool :=
  u.macAddress.isNone && u.address.isNone && u.hostName.isNone && u.options.isNone

end Overlay
