import Overlay.Dhcp.Server
import Overlay.Program

/-!
# The DHCP service of a network

How a network gets its DHCP server, how the server follows the address of its DHCP port, and how it
is taken down. A network has one server, remembered with the port that it was made for. The
controller drops the bindings under a server with it, so only their rows are left to remove.
-/

namespace Overlay.Dhcp

/-- Takes the answer to a removal: an object that was gone already is as good as removed. -/
def settle : Except Controller.Error Unit → Handler Unit
  | .ok () => pure ()
  | .error e => if e.kind = .notFound then pure () else throw (.controller e)

/-- Stops if a value cannot be had because of the request itself. -/
def valid {α : Type} : Except InvalidInput α → Handler α
  | .ok a => pure a
  | .error cause => throw (.invalidInput cause)

/-- Makes a server, remembers it and attaches the port's switch port to it, if that is known. -/
def createService (settings : Settings) (n : Network) (s : Subnet) (p : Port) :
    Handler Store.Service := do
  let config ← match serverConfig n s p settings with
    | .ok config => pure config
    | .error e => throw e
  let serverId ← Handler.call (.createServer config)
  let time ← Handler.now
  let service : Store.Service := ⟨n.id, p.id, serverId, time⟩
  Handler.execute (.putService service)
  Handler.report (.serverCreated n.id serverId)
  match ← Handler.execute (.getPort p.id) with
  | some mapping => Handler.call (.setAttachment mapping.switchPortId serverId .dhcp)
  | none => pure ()
  return service

/-- Makes the server of a network from its DHCP port, unless the network has one. A port that does
not lead to a subnet served by DHCP makes none. -/
def createServiceFor (settings : Settings) (p : Port) : Handler Unit := do
  match ← Handler.execute (.getService p.networkId) with
  | some _ => return
  | none =>
    match ← valid (portAddress p) with
    | none => return
    | some (subnetId, _) =>
      match ← Handler.query (.subnet subnetId) with
      | none => throw (.notFound (.subnet subnetId))
      | some s =>
        if s.servesDhcp then
          match ← Handler.query (.network p.networkId) with
          | none => throw (.notFound (.network p.networkId))
          | some n => let _ ← createService settings n s p

/-- Lets the network's server follow its DHCP port to another address. -/
def moveServer (old new : Port) : Handler Unit := do
  match ← valid (portAddress new) with
  | none => return
  | some (_, ip) =>
    let oldIp := match portAddress old with
      | .ok (some (_, ip)) => some ip
      | _ => none
    if oldIp = some ip then return
    match ← Handler.execute (.getService new.networkId) with
    | none => return
    | some service => Handler.call (.setServerIp service.serverId (.v4 ip))

/-- Takes down the server of a network with all rows under it. If an owner is given, only a server
that was made for this port is taken down. -/
def teardown (networkId : String) (owner : Option String) : Handler Unit := do
  match ← Handler.execute (.getService networkId) with
  | none => return
  | some service =>
    if owner.any (· ≠ service.portId) then return
    settle (← Handler.tryCall (.deleteServer service.serverId))
    let orphans ← Handler.execute (.bindingsUnder service.serverId)
    orphans.forM fun b => do
      let _ ← Handler.execute (.deleteBinding b.portId b.address)
    let _ ← Handler.execute (.deleteService networkId)
    Handler.report (.serverDeleted networkId service.serverId)

end Overlay.Dhcp
