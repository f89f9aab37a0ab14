import Overlay.Dhcp.Resync

/-!
# Events

What is done when a tenant's network, subnet or port comes, changes or goes, and when everything is
to be rebuilt. A handler takes the network's lock before the port's, so that a server is never taken
down while bindings of a port on the same network change. With native DHCP off, events only remove.
-/

namespace Overlay.Dhcp

/-! ## Networks -/

/-- Attaches the metadata proxy to the switch of a new network. -/
def networkCreated (settings : Settings) (n : Network) : Handler (Option SwitchPort) := do
  if !settings.nativeDhcp then return none
  let proxyId ← Handler.setting settings.metadataProxy
  Handler.locked (.network n.id) do
    match ← Handler.execute (.getSwitch n.id) with
    | none => throw (.notFound (.switch n.id))
    | some switchId =>
      let name := if n.name.isEmpty then "network" else n.name
      let port ← Handler.call (.createSwitchPort {
        switchId
        attachmentId := proxyId
        attachmentKind := .metadataProxy
        displayName := label ("mdproxy-" ++ name) n.id
        tags := networkTags n settings.projectName })
      Handler.report (.metadataProxyAttached n.id port.id)
      return some port

/-- Takes down the server of a network that goes. -/
def networkDeleted (networkId : String) : Handler Unit :=
  Handler.locked (.network networkId) (teardown networkId none)

/-! ## Subnets -/

/-- Refuses a second subnet served by DHCP on one network. -/
def ensureOnlyDhcpSubnet (settings : Settings) (s : Subnet) : Handler Unit := do
  if !settings.nativeDhcp then return
  let subnets ← Handler.query (.subnetsOf s.networkId)
  match subnets.find? fun other => other.id ≠ s.id && other.servesDhcp with
  | some other => throw (.invalidInput (.secondDhcpSubnet s.id s.networkId other.id))
  | none => return

/-- Checks a new subnet. -/
def subnetCreated (settings : Settings) (s : Subnet) : Handler Unit :=
  if s.servesDhcp then Handler.locked (.network s.networkId) (ensureOnlyDhcpSubnet settings s)
  else return

/-- Checks a subnet for which DHCP is switched on, and takes down the network's server where it is
switched off. -/
def subnetUpdated (settings : Settings) (old new : Subnet) : Handler Unit :=
  Handler.locked (.network new.networkId) do
    match old.servesDhcp, new.servesDhcp with
    | false, true => ensureOnlyDhcpSubnet settings new
    | true, false => teardown new.networkId none
    | _, _ => return

/-- Takes down the network's server with the subnet it serves. -/
def subnetDeleted (s : Subnet) : Handler Unit :=
  if s.servesDhcp then Handler.locked (.network s.networkId) (teardown s.networkId none)
  else return

/-! ## Ports -/

/-- Runs `body` under the locks of a port's network and of the port. -/
def lockedPort {α : Type} (p : Port) (body : Handler α) : Handler α :=
  Handler.locked (.network p.networkId) (Handler.locked (.port p.id) body)

/-- Makes the server of a DHCP port's network, or binds the addresses of an instance port. -/
def portCreated (settings : Settings) (p : Port) : Handler Unit :=
  if settings.nativeDhcp then
    lockedPort p do
      match p.role with
      | .dhcp => createServiceFor settings p
      | .compute => converge settings p []
      | .other => return
  else return

/-- Whether two versions of a port are the same as far as bindings go. -/
def sameBindings (old new : Port) : Bool :=
  old.macAddress = new.macAddress && old.deviceOwner = new.deviceOwner &&
    old.fixedIps = new.fixedIps

/-- Follows a port that changes: takes down the server of a port that stops being its network's DHCP
port, turns the port's bindings into those it should have now, and makes or moves the server of a
DHCP port. A port that is gone from the catalog is left to the event of its end. -/
def portUpdated (settings : Settings) (old new : Port) : Handler Unit :=
  if !settings.nativeDhcp || sameBindings old new then return
  else
    lockedPort new do
      match ← Handler.query (.port new.id) with
      | none => return
      | some _ =>
        if old.role = .dhcp ∧ new.role ≠ .dhcp then teardown old.networkId (some old.id)
        let current ← Handler.execute (.bindingsOf new.id)
        converge settings new current
        if new.role = .dhcp then
          if old.role = .dhcp then moveServer old new else createServiceFor settings new

/-- Lets go all bindings of a port that goes, and takes down the server that was made for it. -/
def portDeleted (p : Port) : Handler Unit :=
  lockedPort p do
    let rows ← Handler.execute (.bindingsOf p.id)
    rows.forM (releaseAddress p.id)
    if p.role = .dhcp then teardown p.networkId (some p.id)

/-! ## All events -/

/-- An event. -/
inductive Event where
  | networkCreated (n : Network)
  | networkDeleted (networkId : String)
  | subnetCreated (s : Subnet)
  | subnetUpdated (old new : Subnet)
  | subnetDeleted (s : Subnet)
  | portCreated (p : Port)
  | portUpdated (old new : Port)
  | portDeleted (p : Port)
  | resync (profileId : Option String)
  deriving DecidableEq, Repr

/-- The type of the answer to an event. -/
abbrev Event.Answer : Event → Type
  | .networkCreated _ => Option SwitchPort
  | .resync _ => ResyncReport
  | .networkDeleted _ => Unit
  | .subnetCreated _ => Unit
  | .subnetUpdated _ _ => Unit
  | .subnetDeleted _ => Unit
  | .portCreated _ => Unit
  | .portUpdated _ _ => Unit
  | .portDeleted _ => Unit

/-- What is done about an event. -/
def Event.handler (settings : Settings) : (e : Event) → Handler e.Answer
  | .networkCreated n => Dhcp.networkCreated settings n
  | .networkDeleted id => Dhcp.networkDeleted id
  | .subnetCreated s => Dhcp.subnetCreated settings s
  | .subnetUpdated old new => Dhcp.subnetUpdated settings old new
  | .subnetDeleted s => Dhcp.subnetDeleted s
  | .portCreated p => Dhcp.portCreated settings p
  | .portUpdated old new => Dhcp.portUpdated settings old new
  | .portDeleted p => Dhcp.portDeleted p
  | .resync profileId => Dhcp.resync settings profileId

/-! ## The bindings of all instance ports -/

/-- An instance port with the bindings that are remembered for it. -/
structure PortBindings where
  portId : String
  macAddress : String
  fixedIps : List FixedIp
  bindings : List Store.Binding
  deriving DecidableEq, Repr

/-- The instance ports of the catalog, each with its bindings. -/
def listComputeBindings : Handler (List PortBindings) := do
  let ports ← Handler.query .ports
  (ports.filter (·.isCompute)).mapM fun p => do
    let bindings ← Handler.execute (.bindingsOf p.id)
    return ⟨p.id, p.macAddress, p.fixedIps, bindings⟩

end Overlay.Dhcp
