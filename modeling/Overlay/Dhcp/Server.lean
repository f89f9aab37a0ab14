import Overlay.Controller.Objects
import Overlay.Error
import Overlay.Tenant.Basic

/-!
# DHCP servers

The description of the server that serves a subnet from the address of its DHCP port: which tags it
bears, which routes it hands out, and which name servers.
-/

namespace Overlay.Dhcp

/-- The only IPv4 address of a DHCP port with its subnet, if it has one. -/
def portAddress (p : Port) : Except InvalidInput (Option (String × IPv4)) :=
  match p.ipv4s with
  | [] => .ok none
  | [f] => .ok (some f)
  | _ :: _ :: _ => .error (.severalAddresses p.id)

/-- The tags by which objects of a network are found again. -/
def networkTags (n : Network) (projectName : String) : List Tag :=
  [⟨"os-neutron-net-id", n.id⟩, ⟨"os-project-id", n.tenantId⟩,
    ⟨"os-project-name", projectName⟩]

/-- What hosts of a subnet are told about routes: the gateway, if one is known, and the routes. -/
structure Routing where
  gateway : Option Address
  routes : List StaticRoute
  deriving DecidableEq, Repr

namespace Routing

/-- Before the host routes are gone through: the subnet's own gateway, and the route to the subnet
itself. -/
def start (s : Subnet) : Routing := ⟨s.gateway, [⟨s.cidr.network, .v4 IPv4.unspecified⟩]⟩

/-- One host route. A default route is left out, but names the gateway if none is known yet. -/
def withHostRoute (r : Routing) (h : HostRoute) : Routing :=
  if h.destination = Cidr.everything then { r with gateway := r.gateway <|> some h.nextHop }
  else { r with routes := r.routes ++ [⟨h.destination, h.nextHop⟩] }

/-- The default route by the gateway comes last. -/
def withDefaultRoute (r : Routing) : Routing :=
  match r.gateway with
  | some gateway => { r with routes := r.routes ++ [⟨Cidr.everything, gateway⟩] }
  | none => r

/-- The routing of a subnet. -/
def ofSubnet (s : Subnet) : Routing :=
  (s.hostRoutes.foldl withHostRoute (start s)).withDefaultRoute

end Routing

/-- The first IPv4 address that a port holds in a subnet. -/
def addressIn (p : Port) (subnetId : String) : Option IPv4 :=
  (p.ipv4s.find? (·.1 = subnetId)).map (·.2)

/-- The description of the server that serves a subnet of a network from a port. -/
def serverConfig (n : Network) (s : Subnet) (p : Port) (settings : Settings) :
    Except Error DhcpServerConfig := do
  let profileId ← match settings.dhcpProfile with
    | .ok id => pure id
    | .error e => throw (.settings e)
  let ip ← match addressIn p s.id with
    | some ip => pure ip
    | none => throw (.invalidInput (.noAddressInSubnet p.id s.id))
  let serverIp ← match Cidr4.of? ip s.cidr.length with
    | some block => pure (Cidr.v4 block)
    | none => throw (.invalidInput (.blockLength s.id))
  let routing := Routing.ofSubnet s
  return {
    name := label (if n.name.isEmpty then "dhcpserver" else n.name) n.id
    profileId
    serverIp
    nameservers := if s.nameservers.isEmpty then settings.nameservers else s.nameservers
    domainName := settings.dnsDomain
    gateway := routing.gateway
    options := .ofRoutes routing.routes
    tags := networkTags n settings.projectName }

end Overlay.Dhcp
