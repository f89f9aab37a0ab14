import Overlay.Controller.Call
import Overlay.Tenant.Codec

/-!
# Controller objects and calls as JSON

Names of kinds and of arguments are those of the controller's interface.
-/

namespace Overlay

/-- Routers: the edge cluster may be missing. -/
def LogicalRouter.codec : Codec LogicalRouter :=
  .record
    (.required "id" .text <| .required "display_name" .text <|
      .optional "edge_cluster_id" .text .nil)
    (fun r => (r.id, r.displayName, r.edgeClusterId, ()))
    (fun (id, displayName, edgeClusterId, ()) => ⟨id, displayName, edgeClusterId⟩)

/-- Members of an edge cluster. -/
def EdgeMember.codec : Codec EdgeMember :=
  .record (.required "member_index" .uint32 .nil) (fun m => (m.index, ()))
    (fun (index, ()) => ⟨index⟩)

/-- Edge clusters: all fields are required. -/
def EdgeCluster.codec : Codec EdgeCluster :=
  .record (.required "id" .text <| .required "members" EdgeMember.codec.list .nil)
    (fun c => (c.id, c.members, ()))
    (fun (id, members, ()) => ⟨id, members⟩)

/-- The name of a kind of router port. -/
def RouterPortKind.name : RouterPortKind → String
  | .link => "LogicalRouterLinkPort"
  | .downlink => "LogicalRouterDownLinkPort"

/-- Kinds of router port, by name. -/
def RouterPortKind.codec : Codec RouterPortKind := .choice [.link, .downlink] RouterPortKind.name

/-- Address groups: all fields are required. -/
def AddressGroup.codec : Codec AddressGroup :=
  .record (.required "ip_addresses" Address.codec.list <| .required "prefix_length" .uint8 .nil)
    (fun g => (g.addresses, g.length, ()))
    (fun (addresses, length, ()) => ⟨addresses, length⟩)

/-- Requests for router ports: peer, addresses and edge members may be missing. -/
def RouterPortRequest.codec : Codec RouterPortRequest :=
  .record
    (.required "logical_router_id" .text <| .required "display_name" .text <|
      .required "resource_type" RouterPortKind.codec <| .optional "logical_port_id" .text <|
      .optional "address_groups" AddressGroup.codec.list <|
      .optional "edge_cluster_member_index" Codec.uint32.list .nil)
    (fun r => (r.routerId, r.displayName, r.kind, r.logicalPortId, r.addressGroups, r.edgeMembers,
      ()))
    (fun (routerId, displayName, kind, logicalPortId, addressGroups, edgeMembers, ()) =>
      ⟨routerId, displayName, kind, logicalPortId, addressGroups, edgeMembers⟩)

/-- Router ports: the linked port may be missing, and subnets default to none. -/
def RouterPort.codec : Codec RouterPort :=
  .record
    (.required "id" .text <| .required "logical_router_id" .text <|
      .required "resource_type" RouterPortKind.codec <|
      .optional "linked_logical_router_port_id" .text <|
      .defaulted "subnets" AddressGroup.codec.list [] .nil)
    (fun p => (p.id, p.routerId, p.kind, p.linkedPortId, p.subnets, ()))
    (fun (id, routerId, kind, linkedPortId, subnets, ()) =>
      ⟨id, routerId, kind, linkedPortId, subnets⟩)

/-- The name of what a NAT rule does. -/
def NatAction.name : NatAction → String
  | .snat => "SNAT"
  | .dnat => "DNAT"

/-- What a NAT rule does, by name. -/
def NatAction.codec : Codec NatAction := .choice [.snat, .dnat] NatAction.name

/-- NAT rules: all fields are required. -/
def NatRule.codec : Codec NatRule :=
  .record
    (.required "action" NatAction.codec <| .required "translated_network" Address.codec <|
      .required "rule_priority" .uint32 .nil)
    (fun r => (r.action, r.translated, r.priority, ()))
    (fun (action, translated, priority, ()) => ⟨action, translated, priority⟩)

/-- Tags: all fields are required. -/
def Tag.codec : Codec Tag :=
  .record (.required "scope" .text <| .required "tag" .text .nil) (fun t => (t.scope, t.tag, ()))
    (fun (scope, tag, ()) => ⟨scope, tag⟩)

/-- The name of a kind of attachment. -/
def AttachmentKind.name : AttachmentKind → String
  | .interface => "VIF"
  | .dhcp => "DHCP_SERVICE"
  | .metadataProxy => "METADATA_PROXY"

/-- Kinds of attachment, by name. -/
def AttachmentKind.codec : Codec AttachmentKind :=
  .choice [.interface, .dhcp, .metadataProxy] AttachmentKind.name

/-- Requests for switch ports: all fields are required. -/
def SwitchPortRequest.codec : Codec SwitchPortRequest :=
  .record
    (.required "logical_switch_id" .text <| .required "attachment_id" .text <|
      .required "attachment_type" AttachmentKind.codec <| .required "display_name" .text <|
      .required "tags" Tag.codec.list .nil)
    (fun r => (r.switchId, r.attachmentId, r.attachmentKind, r.displayName, r.tags, ()))
    (fun (switchId, attachmentId, attachmentKind, displayName, tags, ()) =>
      ⟨switchId, attachmentId, attachmentKind, displayName, tags⟩)

/-- Switch ports: all fields are required. -/
def SwitchPort.codec : Codec SwitchPort :=
  .record (.required "id" .text <| .required "logical_switch_id" .text .nil)
    (fun p => (p.id, p.switchId, ()))
    (fun (id, switchId, ()) => ⟨id, switchId⟩)

/-- Static routes: all fields are required. -/
def StaticRoute.codec : Codec StaticRoute :=
  .record (.required "network" Cidr.codec <| .required "next_hop" Address.codec .nil)
    (fun r => (r.network, r.nextHop, ()))
    (fun (network, nextHop, ()) => ⟨network, nextHop⟩)

/-- The routes of option 121, inside a record of their own. -/
def StaticRoute.listCodec : Codec (List StaticRoute) :=
  .record (.required "static_routes" StaticRoute.codec.list .nil) (fun rs => (rs, ()))
    (fun (rs, ()) => rs)

/-- DHCP options: option 121 may be missing. -/
def DhcpOptions.codec : Codec DhcpOptions :=
  .record (.optional "option121" StaticRoute.listCodec .nil) (fun o => (o.routes, ()))
    (fun (routes, ()) => ⟨routes⟩)

/-- Descriptions of DHCP servers: the gateway may be missing. -/
def DhcpServerConfig.codec : Codec DhcpServerConfig :=
  .record
    (.required "name" .text <| .required "dhcp_profile_id" .text <|
      .required "server_ip" Cidr.codec <| .required "dns_nameservers" Address.codec.list <|
      .required "domain_name" .text <| .optional "gateway_ip" Address.codec <|
      .required "options" DhcpOptions.codec <| .required "tags" Tag.codec.list .nil)
    (fun c => (c.name, c.profileId, c.serverIp, c.nameservers, c.domainName, c.gateway, c.options,
      c.tags, ()))
    (fun (name, profileId, serverIp, nameservers, domainName, gateway, options, tags, ()) =>
      ⟨name, profileId, serverIp, nameservers, domainName, gateway, options, tags⟩)

/-- Requests for static bindings: all fields are required. -/
def BindingRequest.codec : Codec BindingRequest :=
  .record
    (.required "mac_address" .text <| .required "ip_address" IPv4.codec <|
      .required "host_name" .text <| .required "lease_time" .uint32 <|
      .required "options" DhcpOptions.codec .nil)
    (fun r => (r.macAddress, r.address, r.hostName, r.leaseTime, r.options, ()))
    (fun (macAddress, address, hostName, leaseTime, options, ()) =>
      ⟨macAddress, address, hostName, leaseTime, options⟩)

/-- Updates of static bindings: every field may be missing. -/
def BindingUpdate.codec : Codec BindingUpdate :=
  .record
    (.optional "mac_address" .text <| .optional "ip_address" IPv4.codec <|
      .optional "host_name" .text <| .optional "options" DhcpOptions.codec .nil)
    (fun u => (u.macAddress, u.address, u.hostName, u.options, ()))
    (fun (macAddress, address, hostName, options, ()) => ⟨macAddress, address, hostName, options⟩)

/-- The arguments of a call, each under its name. -/
def Controller.Call.arguments : Controller.Call → List (String × Json)
  | .getRouter id => [("router_id", .text id)]
  | .setEdgeCluster id clusterId => [("router_id", .text id), ("edge_cluster_id", .text clusterId)]
  | .getEdgeCluster id => [("edge_cluster_id", .text id)]
  | .setAdvertisement id nat connected =>
    [("router_id", .text id), ("advertise_nat_routes", .bool nat),
      ("advertise_connected_routes", .bool connected)]
  | .addNatRule id rule => [("router_id", .text id), ("rule", NatRule.codec.encode rule)]
  | .deleteNatRules id translated =>
    [("router_id", .text id), ("translated_network", .text translated.render)]
  | .createRouterPort r => [("req", RouterPortRequest.codec.encode r)]
  | .getDownlinkPort id => [("logical_switch_id", .text id)]
  | .getLinkPort id => [("tier1_id", .text id)]
  | .setRouterPortSubnets id subnets =>
    [("port_id", .text id), ("subnets", AddressGroup.codec.list.encode subnets)]
  | .deleteRouterPort id => [("port_id", .text id)]
  | .createSwitchPort r => [("req", SwitchPortRequest.codec.encode r)]
  | .setAttachment id attachmentId kind =>
    [("port_id", .text id), ("attachment_id", .text attachmentId),
      ("attachment_type", AttachmentKind.codec.encode kind)]
  | .createServer config => [("config", DhcpServerConfig.codec.encode config)]
  | .setServerIp id ip => [("server_id", .text id), ("server_ip", .text ip.render)]
  | .deleteServer id => [("server_id", .text id)]
  | .createBinding id r => [("server_id", .text id), ("req", BindingRequest.codec.encode r)]
  | .updateBinding id bindingId u =>
    [("server_id", .text id), ("binding_id", .text bindingId),
      ("update", BindingUpdate.codec.encode u)]
  | .deleteBinding id bindingId => [("server_id", .text id), ("binding_id", .text bindingId)]

end Overlay
