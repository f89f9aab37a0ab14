import Overlay.Address.Basic

/-!
# The audit trail

One event for each object that is made, changed or removed for a tenant, with its level, its wording
and the identifiers of all objects involved.
-/

namespace Overlay.Audit

/-- How much an event matters. -/
inductive Level where
  | info
  | audit
  deriving DecidableEq, Repr

/-- The name of a level. -/
def Level.text : Level → String
  | .info => "info"
  | .audit => "audit"

/-- An event. -/
inductive Event where
  | linkPortsCreated (tier1Id tier0Id tier1PortId : String)
  | linkPortsRemoved (tier1Id tier0Id : String)
  | snatRuleAdded (routerId : String) (address : Address)
  | snatRuleRemoved (routerId : String) (address : Address)
  | downlinkCreated (routerId switchId portId : String)
  | serverCreated (networkId serverId : String)
  | serverDeleted (networkId serverId : String)
  | bindingCreated (portId macAddress : String) (address : IPv4)
  | bindingUpdated (portId bindingId : String)
  | bindingDeleted (portId bindingId : String)
  | metadataProxyAttached (networkId portId : String)
  | resyncFinished (servers bindings failed : Nat)
  deriving DecidableEq, Repr

namespace Event

/-- The level of an event. -/
def level : Event → Level
  | .snatRuleAdded .. | .snatRuleRemoved .. => .info
  | .bindingCreated .. | .bindingUpdated .. | .bindingDeleted .. => .info
  | _ => .audit

/-- The wording of an event. -/
def message : Event → String
  | .linkPortsCreated .. => "Router link port pair created"
  | .linkPortsRemoved .. => "Router link port pair removed"
  | .snatRuleAdded _ ip => s!"Gateway SNAT rule to {ip.render} added"
  | .snatRuleRemoved _ ip => s!"Gateway SNAT rule to {ip.render} removed"
  | .downlinkCreated .. => "Router downlink port created"
  | .serverCreated .. => "Logical DHCP server created"
  | .serverDeleted .. => "Logical DHCP server deleted"
  | .bindingCreated _ mac ip => s!"DHCP binding created: MAC={mac}, IP={ip.render}"
  | .bindingUpdated .. => "DHCP binding updated"
  | .bindingDeleted .. => "DHCP binding deleted"
  | .metadataProxyAttached .. => "Metadata proxy port created"
  | .resyncFinished servers bindings failed =>
    s!"DHCP resync finished: {servers} servers, {bindings} bindings, {failed} failed"

/-- The identifiers of the objects involved. -/
def objects : Event → List String
  | .linkPortsCreated tier1Id tier0Id tier1PortId => [tier1Id, tier0Id, tier1PortId]
  | .linkPortsRemoved tier1Id tier0Id => [tier1Id, tier0Id]
  | .snatRuleAdded routerId _ => [routerId]
  | .snatRuleRemoved routerId _ => [routerId]
  | .downlinkCreated routerId switchId portId => [routerId, switchId, portId]
  | .serverCreated networkId serverId => [networkId, serverId]
  | .serverDeleted networkId serverId => [networkId, serverId]
  | .bindingCreated portId _ _ => [portId]
  | .bindingUpdated portId bindingId => [portId, bindingId]
  | .bindingDeleted portId bindingId => [portId, bindingId]
  | .metadataProxyAttached networkId portId => [networkId, portId]
  | .resyncFinished .. => []

end Event

end Overlay.Audit
