import Overlay.Settings.Basic
import Overlay.Tenant.Codec

/-!
# Settings as a document

A JSON record with nine fields, each of which may be left out. The document must be one JSON value
with nothing but white space around it; fields of other names are passed over, whatever they hold.
-/

namespace Overlay.Settings

/-- The fields of a document, each with what leaving it out means. -/
def fields : Fields (Bool × Bool × Option String × Option String × UInt32 × Cidr4 × String ×
    List Address × String × Unit) :=
  .defaulted "native_dhcp_metadata" .bool false <|
    .defaulted "dhcp_agent_notification" .bool true <|
    .defaulted "dhcp_profile_uuid" Codec.text.orNull none <|
    .defaulted "metadata_proxy_uuid" Codec.text.orNull none <|
    .defaulted "dhcp_lease_time" .uint32 defaultLeaseTime <|
    .defaulted "native_metadata_route" Cidr4.codec defaultMetadataRoute <|
    .defaulted "dns_domain" .text defaultDnsDomain <|
    .defaulted "nameservers" Address.codec.list [] <|
    .defaulted "project_name" .text defaultProjectName .nil

/-- Settings as a record of these fields. -/
def codec : Codec Settings :=
  .record fields
    (fun s => (s.nativeDhcp, s.agentNotification, s.dhcpProfileId, s.metadataProxyId, s.leaseTime,
      s.metadataRoute, s.dnsDomain, s.nameservers, s.projectName, ()))
    (fun (nativeDhcp, agentNotification, dhcpProfileId, metadataProxyId, leaseTime, metadataRoute,
        dnsDomain, nameservers, projectName, ()) =>
      ⟨nativeDhcp, agentNotification, dhcpProfileId, metadataProxyId, leaseTime, metadataRoute,
        dnsDomain, nameservers, projectName⟩)

/-- The settings that a document describes. -/
def ofDocument (document : String) : Except Problem Settings :=
  match (Json.parse? document).bind codec.decode? with
  | some s => .ok s
  | none => .error .malformed

/-- The settings that the file at a path describes, given its content if there is such a file. -/
def ofFile (path : String) (content : Option ByteArray) : Except Problem Settings :=
  match content with
  | none => .error (.noSuchFile path)
  | some bytes =>
    match String.fromUTF8? bytes with
    | none => .error (.notUtf8 path)
    | some document => ofDocument document

end Overlay.Settings
