import Overlay.Dhcp.Plan
import Overlay.Dhcp.Service

/-!
# Binding the addresses of a port

How the changes of a plan are carried out: each at the controller first, then in the store, then on
the audit trail. Binding an address that a row exists for makes the new binding first and then lets
the old one go, before the row is pointed at the new one.
-/

namespace Overlay.Dhcp

/-- Lets go the binding that the row of an address still names, if it is not the new one. -/
def releaseSuperseded (portId : String) (ip : IPv4) (newId : String) : Handler Unit := do
  let rows ← Handler.execute (.bindingsOf portId)
  match rows.find? fun b => b.address = ip && b.bindingId ≠ newId with
  | none => return
  | some stale => settle (← Handler.tryCall (.deleteBinding stale.serverId stale.bindingId))

/-- Binds an address of a port on a server. -/
def bindAddress (settings : Settings) (portId : String) (d : Desired) (service : Store.Service) :
    Handler Unit := do
  let bindingId ←
    Handler.call (.createBinding service.serverId ((Template.ofSettings settings).request d))
  releaseSuperseded portId d.address bindingId
  let time ← Handler.now
  Handler.execute (.putBinding
    ⟨portId, d.subnetId, d.address, d.macAddress, service.serverId, bindingId, time, time⟩)
  Handler.report (.bindingCreated portId d.macAddress d.address)

/-- Moves a bound address of a port. -/
def moveAddress (portId : String) (b : Store.Binding) (d : Desired) (u : BindingUpdate) :
    Handler Unit := do
  Handler.call (.updateBinding b.serverId b.bindingId u)
  let time ← Handler.now
  let _ ← Handler.execute
    (.moveBinding portId b.address d.subnetId d.address d.macAddress time)
  Handler.report (.bindingUpdated portId b.bindingId)

/-- Lets a bound address of a port go. -/
def releaseAddress (portId : String) (b : Store.Binding) : Handler Unit := do
  settle (← Handler.tryCall (.deleteBinding b.serverId b.bindingId))
  let _ ← Handler.execute (.deleteBinding portId b.address)
  Handler.report (.bindingDeleted portId b.bindingId)

/-- Carries out one change. New bindings go to the server of `service`, which `converge` has looked
up if its plan holds any. -/
def applyChange (settings : Settings) (portId : String) (service : Option Store.Service) :
    Change → Handler Unit
  | .keep => pure ()
  | .create d =>
    match service with
    | some service => bindAddress settings portId d service
    | none => throw (.notFound (.portServer portId))
  | .update b d u => moveAddress portId b d u
  | .delete b => releaseAddress portId b

/-- The subnets of a network that are served by DHCP. -/
def servedSubnets (networkId : String) : Handler (List String) := do
  let subnets ← Handler.query (.subnetsOf networkId)
  return (subnets.filter (·.servesDhcp)).map (·.id)

/-- The server that a plan needs: the network's, if something is to be bound. -/
def serviceFor (p : Port) (changes : List Change) : Handler (Option Store.Service) :=
  if changes.any (·.isCreate) then do
    match ← Handler.execute (.getService p.networkId) with
    | some service => return some service
    | none => throw (.notFound (.server p.networkId p.id))
  else return none

/-- Turns the bindings that a port has into those it should have. -/
def converge (settings : Settings) (p : Port) (current : List Store.Binding) : Handler Unit := do
  let desired ←
    if p.isCompute then do
      let subnetIds ← servedSubnets p.networkId
      pure (desiredBindings p subnetIds)
    else pure []
  let changes := plan current desired (Template.ofSettings settings)
  let service ← serviceFor p changes
  changes.forM (applyChange settings p.id service)

end Overlay.Dhcp
