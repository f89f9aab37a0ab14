import Overlay.Json.Codec
import Overlay.Tenant.Basic

/-!
# Tenant records as JSON
-/

namespace Overlay

/-- Addresses, in their written form. -/
def Address.codec : Codec Address := .spelled Address.render Address.parse?

/-- IPv4 addresses, in their written form. -/
def IPv4.codec : Codec IPv4 := .spelled IPv4.render IPv4.parse?

/-- Address blocks, in their written form. -/
def Cidr.codec : Codec Cidr := .spelled Cidr.render Cidr.parse?

/-- IPv4 address blocks, in their written form. -/
def Cidr4.codec : Codec Cidr4 := .spelled Cidr4.render Cidr4.parse?

/-- Networks: all fields are required. -/
def Network.codec : Codec Network :=
  .record (.required "id" .text <| .required "name" .text <| .required "tenant_id" .text .nil)
    (fun n => (n.id, n.name, n.tenantId, ()))
    (fun (id, name, tenantId, ()) => ⟨id, name, tenantId⟩)

/-- Host routes: all fields are required. -/
def HostRoute.codec : Codec HostRoute :=
  .record (.required "destination" Cidr.codec <| .required "nexthop" Address.codec .nil)
    (fun r => (r.destination, r.nextHop, ()))
    (fun (destination, nextHop, ()) => ⟨destination, nextHop⟩)

/-- Subnets: name servers and host routes default to none. -/
def Subnet.codec : Codec Subnet :=
  .record
    (.required "id" .text <| .required "network_id" .text <| .required "cidr" Cidr.codec <|
      .required "enable_dhcp" .bool <| .optional "gateway_ip" Address.codec <|
      .defaulted "dns_nameservers" Address.codec.list [] <|
      .defaulted "host_routes" HostRoute.codec.list [] .nil)
    (fun s => (s.id, s.networkId, s.cidr, s.dhcpEnabled, s.gateway, s.nameservers, s.hostRoutes,
      ()))
    (fun (id, networkId, cidr, dhcpEnabled, gateway, nameservers, hostRoutes, ()) =>
      ⟨id, networkId, cidr, dhcpEnabled, gateway, nameservers, hostRoutes⟩)

/-- Fixed addresses: all fields are required. -/
def FixedIp.codec : Codec FixedIp :=
  .record (.required "subnet_id" .text <| .required "ip_address" Address.codec .nil)
    (fun f => (f.subnetId, f.address, ()))
    (fun (subnetId, address, ()) => ⟨subnetId, address⟩)

/-- Ports: name and device owner default to nothing, and fixed addresses to none. -/
def Port.codec : Codec Port :=
  .record
    (.required "id" .text <| .required "network_id" .text <| .defaulted "name" .text "" <|
      .required "mac_address" .text <| .defaulted "device_owner" .text "" <|
      .defaulted "fixed_ips" FixedIp.codec.list [] .nil)
    (fun p => (p.id, p.networkId, p.name, p.macAddress, p.deviceOwner, p.fixedIps, ()))
    (fun (id, networkId, name, macAddress, deviceOwner, fixedIps, ()) =>
      ⟨id, networkId, name, macAddress, deviceOwner, fixedIps⟩)

end Overlay
