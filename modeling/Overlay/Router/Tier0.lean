import Overlay.Program

/-!
# Tier-0 routers

A tier-0 router can take links if the controller knows it and it is on an edge cluster with enough
members. A router that has been found fit is remembered, and is not looked up again.
-/

namespace Overlay.Router

/-- How many members an edge cluster needs, and on how many of them a tier-1 link port is placed. -/
def minEdgeMembers : Nat := 1

/-- The edge cluster of a router that is on one. -/
def clusterOf (r : LogicalRouter) : Option String := r.edgeClusterId.filter (!·.isEmpty)

/-- What the controller has to say on a tier-0 router. -/
def lookUpTier0 (tier0Id : String) : Handler Tier0 := do
  match ← Handler.call (.getRouter tier0Id) with
  | none => throw (.invalidInput (.unknownTier0 tier0Id))
  | some router =>
    match clusterOf router with
    | none => throw (.invalidInput (.noEdgeCluster tier0Id))
    | some clusterId =>
      let cluster ← Handler.call (.getEdgeCluster clusterId)
      let members := match cluster with
        | some c => c.members.map (·.index)
        | none => []
      if members.length < minEdgeMembers then
        throw (.invalidInput (.clusterTooSmall members.length clusterId minEdgeMembers))
      return ⟨tier0Id, clusterId, members⟩

/-- A tier-0 router that can take links, from memory if it is there. -/
def validateTier0 (tier0Id : String) : Handler Tier0 := do
  match ← Handler.validated tier0Id with
  | some t => return t
  | none =>
    let t ← lookUpTier0 tier0Id
    Handler.remember t
    return t

end Overlay.Router
