import Overlay.Catalog
import Overlay.Controller.Call
import Overlay.Settings.Basic
import Overlay.Store.Record

/-!
# Errors

Why an operation stops: a fault in the settings, a request that cannot be met as it is, a record
that does not exist, or an error of the controller, the store or the catalog.
-/

namespace Overlay

/-- Why a request cannot be met as it is. -/
inductive InvalidInput where
  /-- The controller does not know the tier-0 router. -/
  | unknownTier0 (tier0Id : String)
  /-- The tier-0 router is on no edge cluster. -/
  | noEdgeCluster (tier0Id : String)
  /-- The edge cluster of a tier-0 router is too small. -/
  | clusterTooSmall (found : Nat) (clusterId : String) (needed : Nat)
  /-- Too few edge members are given for a link. -/
  | tooFewMembers (given : Nat) (tier0Id : String) (needed : Nat)
  /-- The network has a subnet served by DHCP already. -/
  | secondDhcpSubnet (subnetId networkId existingId : String)
  /-- The DHCP port has more than one IPv4 address. -/
  | severalAddresses (portId : String)
  /-- The DHCP port has no IPv4 address in the subnet. -/
  | noAddressInSubnet (portId subnetId : String)
  /-- The subnet's block length does not fit an IPv4 address. -/
  | blockLength (subnetId : String)
  deriving DecidableEq, Repr

/-- The wording of a cause. -/
def InvalidInput.message : InvalidInput → String
  | .unknownTier0 id =>
    s!"Failed to validate tier0 router {id} since it is not found at the backend"
  | .noEdgeCluster id =>
    s!"Failed to get edge cluster uuid from tier0 router {id} at the backend"
  | .clusterTooSmall found clusterId needed =>
    s!"{found} edge members found in edge_cluster {clusterId}, " ++
      s!"however we require at least {needed} edge nodes in edge cluster for HA use."
  | .tooFewMembers given tier0Id needed =>
    s!"{given} edge members given for tier0 router {tier0Id}, at least {needed} required"
  | .secondDhcpSubnet subnetId networkId existingId =>
    s!"Can not enable DHCP on subnet {subnetId} because network {networkId} already has " ++
      s!"DHCP-enabled subnet {existingId}"
  | .severalAddresses portId => s!"DHCP port {portId} cannot have more than one IPv4 address"
  | .noAddressInSubnet portId subnetId =>
    s!"DHCP port {portId} has no IPv4 address in subnet {subnetId}"
  | .blockLength subnetId => s!"subnet {subnetId}: invalid IP prefix length"

/-- A record that does not exist. -/
inductive Missing where
  | switch (networkId : String)
  /-- The network has no DHCP server when the changes of a port are planned. -/
  | server (networkId portId : String)
  /-- A change of a port is to bind an address, but no DHCP server was looked up for it. -/
  | portServer (portId : String)
  | subnet (id : String)
  | network (id : String)
  deriving DecidableEq, Repr

/-- The wording of what is missing. -/
def Missing.message : Missing → String
  | .switch networkId => s!"logical switch for network {networkId}"
  | .server networkId portId => s!"DHCP server for network {networkId} of port {portId}"
  | .portServer portId => s!"DHCP server for port {portId}"
  | .subnet id => s!"subnet {id}"
  | .network id => s!"network {id}"

/-- Why an operation stops. -/
inductive Error where
  | settings (problem : Settings.Problem)
  | invalidInput (cause : InvalidInput)
  | notFound (missing : Missing)
  | controller (error : Controller.Error)
  | store (error : Store.Error)
  | catalog (error : Catalog.Error)
  deriving DecidableEq, Repr

/-- The wording of an error. -/
def Error.message : Error → String
  | .settings p => "configuration error: " ++ p.message
  | .invalidInput c => "invalid input: " ++ c.message
  | .notFound m => "not found: " ++ m.message
  | .controller e => "backend: " ++ e.message
  | .store e => "mapping store: " ++ e.message
  | .catalog e => "catalog: " ++ e.message

end Overlay
