import Overlay.Address.Cidr
import Overlay.Text.Blank

/-!
# Settings

What an operator decides about native DHCP and metadata. `Settings.default` is in force where a
document says nothing. An identifier counts as defined only if something is left of it after
blanks are cut off its ends.
-/

namespace Overlay

/-- What is wrong with the settings, or with the document they come from. -/
inductive Settings.Problem where
  /-- There is no document at this path. -/
  | noSuchFile (path : String)
  /-- The document at this path is not text in UTF-8. -/
  | notUtf8 (path : String)
  /-- The document does not describe settings. -/
  | malformed
  /-- Native DHCP is off where it must be on. -/
  | nativeDhcpOff
  /-- The host notifies an agent although native DHCP is on. -/
  | agentNotified
  /-- Native DHCP is off, so there is nothing to rebuild. -/
  | resyncNativeDhcpOff
  /-- The host notifies an agent, so nothing must be rebuilt. -/
  | resyncAgentNotified
  /-- An identifier is missing or blank. -/
  | undefined (setting : String)
  deriving DecidableEq, Repr

/-- The wording of a problem. -/
def Settings.Problem.message : Settings.Problem → String
  | .noSuchFile path => s!"failed to read {path}: No such file or directory (os error 2)"
  | .notUtf8 path => s!"failed to read {path}: stream did not contain valid UTF-8"
  | .malformed => "invalid config"
  | .nativeDhcpOff => "native_dhcp_metadata must be enabled"
  | .agentNotified =>
    "dhcp_agent_notification must be disabled when native_dhcp_metadata is enabled"
  | .resyncNativeDhcpOff => "native_dhcp_metadata is not enabled"
  | .resyncAgentNotified => "dhcp_agent_notification must be disabled to resync native DHCP"
  | .undefined setting => s!"{setting} is not defined"

/-- Settings of native DHCP and metadata. -/
structure Settings where
  /-- Whether the controller serves DHCP and metadata. -/
  nativeDhcp : Bool
  /-- Whether the host still notifies an external DHCP agent. -/
  agentNotification : Bool
  dhcpProfileId : Option String
  metadataProxyId : Option String
  /-- Lease time of every static binding, in seconds. -/
  leaseTime : UInt32
  /-- Destination of the route to the metadata proxy. -/
  metadataRoute : Cidr4
  dnsDomain : String
  /-- Name servers for subnets that name none. -/
  nameservers : List Address
  projectName : String
  deriving DecidableEq, Repr

namespace Settings

/-- The lease time where none is given: a day. -/
def defaultLeaseTime : UInt32 := 86400

/-- The metadata service and its neighbour, at which the route to the proxy goes by default. -/
def defaultMetadataRoute : Cidr4 := ⟨⟨169, 254, 169, 254⟩, 31, by decide⟩

/-- The DNS domain where none is given. -/
def defaultDnsDomain : String := "openstacklocal"

/-- The project in whose name objects are tagged where none is given. -/
def defaultProjectName : String := "admin"

/-- The settings in force where nothing else is said. -/
def default : Settings where
  nativeDhcp := false
  agentNotification := true
  dhcpProfileId := none
  metadataProxyId := none
  leaseTime := defaultLeaseTime
  metadataRoute := defaultMetadataRoute
  dnsDomain := defaultDnsDomain
  nameservers := []
  projectName := defaultProjectName

/-- Settings with native DHCP on and both identifiers defined. -/
def native (dhcpProfileId metadataProxyId : String) : Settings :=
  { default with
    nativeDhcp := true
    agentNotification := false
    dhcpProfileId := some dhcpProfileId
    metadataProxyId := some metadataProxyId }

/-- The settings with another DHCP profile, if one is given. -/
def withDhcpProfile (s : Settings) : Option String → Settings
  | some id => { s with dhcpProfileId := some id }
  | none => s

/-- An identifier without the blanks around it, if it is defined. -/
def defined (setting : String) (value : Option String) : Except Problem String :=
  match value.map Text.trimBlank with
  | some id => if id.isEmpty then .error (.undefined setting) else .ok id
  | none => .error (.undefined setting)

/-- The DHCP profile of new servers. -/
def dhcpProfile (s : Settings) : Except Problem String := defined "dhcp_profile_uuid" s.dhcpProfileId

/-- The metadata proxy that networks are attached to. -/
def metadataProxy (s : Settings) : Except Problem String :=
  defined "metadata_proxy_uuid" s.metadataProxyId

/-- Checks what native DHCP cannot run without: it is on, no agent is notified, and both identifiers
are defined; the first fault in this order is reported. -/
def validate (s : Settings) : Except Problem Unit := do
  if !s.nativeDhcp then throw .nativeDhcpOff
  if s.agentNotification then throw .agentNotified
  let _ ← s.dhcpProfile
  let _ ← s.metadataProxy

/-- Checks what a rebuild cannot run without. -/
def validateResync (s : Settings) : Except Problem Unit := do
  if !s.nativeDhcp then throw .resyncNativeDhcpOff
  if s.agentNotification then throw .resyncAgentNotified
  let _ ← s.dhcpProfile

end Settings

end Overlay
