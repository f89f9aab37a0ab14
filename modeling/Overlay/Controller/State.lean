import Overlay.Controller.Call
import Overlay.Table

/-!
# What the controller holds

The controller as a state and the effect of each call on it. Every call that arrives is recorded,
whether it is answered or refused. New objects are named by their kind and by how many of that kind
have been made; a refused call uses up no name.
-/

namespace Overlay.Controller

/-- A static binding that a DHCP server holds. -/
structure HeldBinding where
  id : String
  serverId : String
  macAddress : String
  address : IPv4
  hostName : String
  deriving DecidableEq, Repr

/-- Whether a binding is the one of this identifier under this server. -/
def HeldBinding.isAt (serverId bindingId : String) (b : HeldBinding) : Bool :=
  b.serverId = serverId && b.id = bindingId

/-- A binding with the given fields changed. -/
def HeldBinding.updated (b : HeldBinding) (u : BindingUpdate) : HeldBinding :=
  { b with
    macAddress := u.macAddress.getD b.macAddress
    address := u.address.getD b.address
    hostName := u.hostName.getD b.hostName }

/-- A router port, and the switch it leads to if it is a downlink on a known switch port. -/
structure HeldRouterPort where
  port : RouterPort
  switchId : Option String
  deriving DecidableEq, Repr

/-- A DHCP server. -/
structure HeldServer where
  id : String
  config : DhcpServerConfig
  deriving DecidableEq, Repr

/-- A NAT rule of a router. -/
structure HeldNatRule where
  routerId : String
  rule : NatRule
  deriving DecidableEq, Repr

/-- How many objects of each kind have been made. -/
structure Made where
  routerPorts : Nat
  switchPorts : Nat
  servers : Nat
  bindings : Nat
  deriving DecidableEq, Repr

/-- Calls that the controller is told to refuse. -/
structure Refusals where
  /-- Routers on which no port can be made. -/
  routers : List String
  /-- Addresses for which no binding can be made. -/
  addresses : List IPv4
  /-- Whether no DHCP server can be deleted. -/
  serverDeletes : Bool
  deriving DecidableEq, Repr

/-- Everything the controller holds. -/
structure State where
  /-- The calls that have arrived, first to last. -/
  calls : List Call
  routers : List LogicalRouter
  edgeClusters : List EdgeCluster
  routerPorts : List HeldRouterPort
  natRules : List HeldNatRule
  switchPorts : List SwitchPort
  servers : List HeldServer
  bindings : List HeldBinding
  made : Made
  refusals : Refusals
  deriving DecidableEq, Repr

namespace State

/-- A controller that holds nothing. -/
def empty : State := ⟨[], [], [], [], [], [], [], [], ⟨0, 0, 0, 0⟩, ⟨[], [], false⟩⟩

/-! ## Arrangements made from outside -/

/-- Adds or replaces a router. -/
def addRouter (s : State) (r : LogicalRouter) : State :=
  { s with routers := Table.put LogicalRouter.id r s.routers }

/-- Adds or replaces an edge cluster. -/
def addEdgeCluster (s : State) (c : EdgeCluster) : State :=
  { s with edgeClusters := Table.put EdgeCluster.id c s.edgeClusters }

/-- Declares that a switch port belongs to a switch. -/
def addSwitchPort (s : State) (p : SwitchPort) : State :=
  { s with switchPorts := Table.put SwitchPort.id p s.switchPorts }

/-- From now on refuses new ports on a router. -/
def refuseRouter (s : State) (routerId : String) : State :=
  { s with refusals := { s.refusals with routers := routerId :: s.refusals.routers } }

/-- From now on refuses new bindings for an address. -/
def refuseAddress (s : State) (ip : IPv4) : State :=
  { s with refusals := { s.refusals with addresses := ip :: s.refusals.addresses } }

/-- From now on refuses to delete DHCP servers. -/
def refuseServerDeletes (s : State) : State :=
  { s with refusals := { s.refusals with serverDeletes := true } }

/-- Forgets the calls that have arrived. -/
def clearCalls (s : State) : State := { s with calls := [] }

/-! ## Views -/

/-- The NAT rules of a router, oldest first. -/
def natRulesOf (s : State) (routerId : String) : List NatRule :=
  (s.natRules.filter (·.routerId = routerId)).map (·.rule)

/-- The DHCP server with this identifier. -/
def server? (s : State) (serverId : String) : Option HeldServer :=
  Table.find? HeldServer.id serverId s.servers

/-- How many of the calls that have arrived do one of these things. -/
def countCalls (s : State) (ops : List Operation) : Nat :=
  s.calls.countP (ops.contains ·.operation)

/-! ## Calls -/

/-- A new router port. Linking it to an existing port links that port back to it. -/
def createRouterPort (s : State) (r : RouterPortRequest) : Except Error RouterPort × State :=
  if r.routerId ∈ s.refusals.routers then
    (.error ⟨.request, s!"injected failure creating port on {r.routerId}"⟩, s)
  else
    let id := s!"lrp-{s.made.routerPorts + 1}"
    let linked := match r.kind with
      | .link => r.logicalPortId
      | .downlink => none
    let port : RouterPort := ⟨id, r.routerId, r.kind, linked, r.addressGroups.getD []⟩
    let ports := match linked with
      | some peer => Table.modify (·.port.id) peer
          (fun e => { e with port := { e.port with linkedPortId := some id } }) s.routerPorts
      | none => s.routerPorts
    let switchId := match r.kind with
      | .link => none
      | .downlink => r.logicalPortId.bind fun portId =>
          (Table.find? SwitchPort.id portId s.switchPorts).map (·.switchId)
    (.ok port,
      { s with
        routerPorts := ports ++ [⟨port, switchId⟩]
        made := { s.made with routerPorts := s.made.routerPorts + 1 } })

/-- Other subnets for a router port. -/
def setRouterPortSubnets (s : State) (portId : String) (subnets : List AddressGroup) :
    Except Error RouterPort × State :=
  match Table.find? (·.port.id) portId s.routerPorts with
  | none => (.error ⟨.notFound, s!"router port {portId}"⟩, s)
  | some e =>
    (.ok { e.port with subnets },
      { s with
        routerPorts := Table.modify (·.port.id) portId
          (fun e => { e with port := { e.port with subnets } }) s.routerPorts })

/-- Removes a router port. -/
def deleteRouterPort (s : State) (portId : String) : Except Error Unit × State :=
  if s.routerPorts.any (·.port.id = portId) then
    (.ok (), { s with routerPorts := Table.remove (·.port.id) portId s.routerPorts })
  else (.error ⟨.notFound, s!"router port {portId}"⟩, s)

/-- A new switch port. -/
def createSwitchPort (s : State) (r : SwitchPortRequest) : SwitchPort × State :=
  let port : SwitchPort := ⟨s!"lp-{s.made.switchPorts + 1}", r.switchId⟩
  (port,
    { s.addSwitchPort port with made := { s.made with switchPorts := s.made.switchPorts + 1 } })

/-- A new DHCP server. -/
def createServer (s : State) (config : DhcpServerConfig) : String × State :=
  let id := s!"dhcp-{s.made.servers + 1}"
  (id,
    { s with
      servers := s.servers ++ [⟨id, config⟩]
      made := { s.made with servers := s.made.servers + 1 } })

/-- Another address for a DHCP server, under the block length it has. An address that this length
does not fit changes nothing. -/
def setServerIp (s : State) (serverId : String) (ip : Address) : Except Error Unit × State :=
  match s.server? serverId with
  | none => (.error ⟨.notFound, s!"DHCP server {serverId}"⟩, s)
  | some _ =>
    (.ok (),
      { s with
        servers := Table.modify HeldServer.id serverId
          (fun h => { h with
            config := { h.config with
              serverIp := (Cidr.of? ip h.config.serverIp.length).getD h.config.serverIp } })
          s.servers })

/-- Removes a DHCP server with the bindings under it. -/
def deleteServer (s : State) (serverId : String) : Except Error Unit × State :=
  if s.refusals.serverDeletes then
    (.error ⟨.request, s!"injected failure deleting DHCP server {serverId}"⟩, s)
  else if (s.server? serverId).isNone then (.error ⟨.notFound, s!"DHCP server {serverId}"⟩, s)
  else
    (.ok (),
      { s with
        servers := Table.remove HeldServer.id serverId s.servers
        bindings := Table.remove HeldBinding.serverId serverId s.bindings })

/-- A new binding under a DHCP server. -/
def createBinding (s : State) (serverId : String) (r : BindingRequest) :
    Except Error String × State :=
  if r.address ∈ s.refusals.addresses then
    (.error ⟨.request, s!"injected failure binding {r.address.render}"⟩, s)
  else if (s.server? serverId).isNone then (.error ⟨.notFound, s!"DHCP server {serverId}"⟩, s)
  else
    let id := s!"binding-{s.made.bindings + 1}"
    (.ok id,
      { s with
        bindings := s.bindings ++ [⟨id, serverId, r.macAddress, r.address, r.hostName⟩]
        made := { s.made with bindings := s.made.bindings + 1 } })

/-- Changes a binding. -/
def updateBinding (s : State) (serverId bindingId : String) (u : BindingUpdate) :
    Except Error Unit × State :=
  if s.bindings.any (HeldBinding.isAt serverId bindingId) then
    (.ok (),
      { s with
        bindings := Table.modify (fun b => (b.serverId, b.id)) (serverId, bindingId)
          (HeldBinding.updated · u) s.bindings })
  else (.error ⟨.notFound, s!"binding {bindingId}"⟩, s)

/-- Removes a binding. -/
def deleteBinding (s : State) (serverId bindingId : String) : Except Error Unit × State :=
  if s.bindings.any (HeldBinding.isAt serverId bindingId) then
    (.ok (), { s with bindings := s.bindings.filter (!HeldBinding.isAt serverId bindingId ·) })
  else (.error ⟨.notFound, s!"binding {bindingId}"⟩, s)

/-- The answer to a call and what it leaves, apart from the record of the call. -/
def effect (s : State) : (c : Call) → Except Error c.Answer × State
  | .getRouter id => (.ok (Table.find? LogicalRouter.id id s.routers), s)
  | .setEdgeCluster id clusterId =>
    (.ok (),
      { s with
        routers := Table.modify LogicalRouter.id id
          (fun r => { r with edgeClusterId := some clusterId }) s.routers })
  | .getEdgeCluster id => (.ok (Table.find? EdgeCluster.id id s.edgeClusters), s)
  | .setAdvertisement _ _ _ => (.ok (), s)
  | .addNatRule id rule => (.ok (), { s with natRules := s.natRules ++ [⟨id, rule⟩] })
  | .deleteNatRules id translated =>
    (.ok (),
      { s with
        natRules := s.natRules.filter fun h =>
          !(h.routerId = id && h.rule.translated = translated) })
  | .createRouterPort r => s.createRouterPort r
  | .getDownlinkPort switchId =>
    (.ok ((s.routerPorts.find? (·.switchId = some switchId)).map (·.port)), s)
  | .getLinkPort routerId =>
    (.ok ((s.routerPorts.find? fun e => e.port.routerId = routerId && e.port.kind = .link).map
      (·.port)), s)
  | .setRouterPortSubnets id subnets => s.setRouterPortSubnets id subnets
  | .deleteRouterPort id => s.deleteRouterPort id
  | .createSwitchPort r => let (p, s) := s.createSwitchPort r; (.ok p, s)
  | .setAttachment _ _ _ => (.ok (), s)
  | .createServer config => let (id, s) := s.createServer config; (.ok id, s)
  | .setServerIp id ip => s.setServerIp id ip
  | .deleteServer id => s.deleteServer id
  | .createBinding serverId r => s.createBinding serverId r
  | .updateBinding serverId bindingId u => s.updateBinding serverId bindingId u
  | .deleteBinding serverId bindingId => s.deleteBinding serverId bindingId

/-- The answer to a call that arrives, and what it leaves. -/
def perform (s : State) (c : Call) : Except Error c.Answer × State :=
  effect { s with calls := s.calls ++ [c] } c

end State

end Overlay.Controller
