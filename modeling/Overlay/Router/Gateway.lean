import Overlay.Program

/-!
# Gateways of tenant routers

Which routes a router makes known, the rule that lets its traffic leave under the gateway's address,
and the edge cluster that it runs on.
-/

namespace Overlay.Router

/-- The priority of the gateway rule; rules of lower number come first. -/
def gatewayRulePriority : UInt32 := 1000

/-- The rule that translates outbound traffic to an address. -/
def gatewayRule (ip : Address) : NatRule := ⟨.snat, ip, gatewayRulePriority⟩

/-- Says which routes a router makes known. -/
def setAdvertisement (routerId : String) (natRoutes connectedRoutes : Bool) : Handler Unit :=
  Handler.call (.setAdvertisement routerId natRoutes connectedRoutes)

/-- Translates outbound traffic of a router to an address. -/
def addGatewayRule (routerId : String) (ip : Address) : Handler Unit := do
  Handler.call (.addNatRule routerId (gatewayRule ip))
  Handler.report (.snatRuleAdded routerId ip)

/-- Removes all rules of a router that translate to an address. -/
def removeGatewayRules (routerId : String) (ip : Address) : Handler Unit := do
  Handler.call (.deleteNatRules routerId ip)
  Handler.report (.snatRuleRemoved routerId ip)

/-- Puts a router on an edge cluster. -/
def setEdgeCluster (routerId clusterId : String) : Handler Unit :=
  Handler.call (.setEdgeCluster routerId clusterId)

end Overlay.Router
