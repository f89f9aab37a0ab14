import Overlay.Program

/-!
# Interfaces of tenant routers

A router reaches a subnet by a downlink port on the subnet's switch. A switch has one such port:
asking again only gives it other addresses.
-/

namespace Overlay.Router

/-- The request for a downlink port. -/
def downlinkRequest (routerId switchPortId : String) (groups : List AddressGroup) :
    RouterPortRequest where
  routerId := routerId
  displayName := "Tier1-RouterDownLinkPort"
  kind := .downlink
  logicalPortId := some switchPortId
  addressGroups := some groups
  edgeMembers := none

/-- Makes the router's downlink port on a switch, or gives the switch's downlink port these
addresses if there is one. -/
def setInterface (routerId switchId switchPortId : String) (groups : List AddressGroup) :
    Handler RouterPort := do
  match ← Handler.call (.getDownlinkPort switchId) with
  | some port => Handler.call (.setRouterPortSubnets port.id groups)
  | none =>
    let port ← Handler.call (.createRouterPort (downlinkRequest routerId switchPortId groups))
    Handler.report (.downlinkCreated routerId switchId port.id)
    return port

end Overlay.Router
