import Overlay.Router.Tier0

/-!
# Links between routers

A tier-1 router is linked to a tier-0 router by a pair of ports that name each other. The tier-0
port is made first; if the tier-1 port cannot be made, the tier-0 port is taken away again, and the
error of that attempt is passed over.
-/

namespace Overlay.Router

/-- The two ports of a link. -/
structure LinkPair where
  tier0Port : RouterPort
  tier1Port : RouterPort
  deriving DecidableEq, Repr

/-- The members on which a tier-1 link port is placed. -/
def placement (members : List UInt32) : List UInt32 := members.take minEdgeMembers

/-- The request for the tier-0 port of a link. -/
def tier0PortRequest (tier0Id : String) : RouterPortRequest where
  routerId := tier0Id
  displayName := "TIER0-RouterLinkPort"
  kind := .link
  logicalPortId := none
  addressGroups := none
  edgeMembers := none

/-- The request for the tier-1 port of a link. -/
def tier1PortRequest (tier1Id tier0PortId : String) (members : List UInt32) :
    RouterPortRequest where
  routerId := tier1Id
  displayName := "TIER1-RouterLinkPort"
  kind := .link
  logicalPortId := some tier0PortId
  addressGroups := none
  edgeMembers := some (placement members)

/-- Links two routers by a pair of new ports, the tier-1 one placed among the given members. -/
def addLink (tier1Id tier0Id : String) (members : List UInt32) : Handler LinkPair := do
  if members.length < minEdgeMembers then
    throw (.invalidInput (.tooFewMembers members.length tier0Id minEdgeMembers))
  let tier0Port ← Handler.call (.createRouterPort (tier0PortRequest tier0Id))
  match ← Handler.tryCall (.createRouterPort (tier1PortRequest tier1Id tier0Port.id members)) with
  | .ok tier1Port =>
    Handler.report (.linkPortsCreated tier1Id tier0Id tier1Port.id)
    return ⟨tier0Port, tier1Port⟩
  | .error e =>
    let _ ← Handler.tryCall (.deleteRouterPort tier0Port.id)
    throw (.controller e)

/-- Links a tier-1 router to a tier-0 router that can take links. -/
def link (tier1Id tier0Id : String) : Handler LinkPair := do
  let tier0 ← validateTier0 tier0Id
  addLink tier1Id tier0Id tier0.members

/-- Takes away the link port of a tier-1 router, then the port that it names as its peer. A router
without a link port is left alone. -/
def removeLink (tier1Id tier0Id : String) : Handler Unit := do
  match ← Handler.call (.getLinkPort tier1Id) with
  | none => return
  | some port =>
    Handler.call (.deleteRouterPort port.id)
    match port.linkedPortId with
    | some peer => Handler.call (.deleteRouterPort peer)
    | none => pure ()
    Handler.report (.linkPortsRemoved tier1Id tier0Id)

end Overlay.Router
