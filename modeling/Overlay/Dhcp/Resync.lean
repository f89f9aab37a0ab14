import Overlay.Dhcp.Converge

/-!
# Rebuilding everything

One pass over all ports that makes the servers that are missing and binds every address anew. The
pass first goes through the ports in the catalog's order: a DHCP port gets its network's server, and
the addresses of instance ports are collected by the switch behind their network. Then the switches
are taken in order, and each address is bound on the server found for its switch. Servers and
bindings that fail are counted and the pass goes on; an error of the catalog or of the store while
the ports are gone through ends it.
-/

namespace Overlay.Dhcp

/-- What a pass has done. -/
structure ResyncReport where
  serversCreated : Nat
  serversReused : Nat
  serversFailed : Nat
  bindingsCreated : Nat
  bindingsFailed : Nat
  deriving DecidableEq, Repr

/-- The addresses of instance ports behind one switch. The network is the one of the port that came
last. -/
structure SwitchGroup where
  switchId : String
  networkId : String
  /-- Ports with an address to bind, in the order of the pass. -/
  entries : List (String × Desired)
  deriving DecidableEq, Repr

/-- The server found for a switch. -/
structure SwitchServer where
  switchId : String
  service : Store.Service
  deriving DecidableEq, Repr

/-- A subnet that has been looked up, or found missing. -/
structure KnownSubnet where
  id : String
  subnet : Option Subnet
  deriving DecidableEq, Repr

/-- How far a pass has come. -/
structure Pass where
  report : ResyncReport
  subnets : List KnownSubnet
  servers : List SwitchServer
  groups : List SwitchGroup
  deriving DecidableEq, Repr

/-- A pass that has not started. -/
def Pass.start : Pass := ⟨⟨0, 0, 0, 0, 0⟩, [], [], []⟩

/-- The subnet of this identifier, looked up once in a pass. -/
def Pass.subnet (pass : Pass) (id : String) : Handler (Option Subnet × Pass) := do
  match Table.find? KnownSubnet.id id pass.subnets with
  | some known => return (known.subnet, pass)
  | none =>
    let subnet ← Handler.query (.subnet id)
    return (subnet, { pass with subnets := pass.subnets ++ [⟨id, subnet⟩] })

/-- Remembers a server for a switch; a later one takes the place of an earlier one. -/
def Pass.withServer (pass : Pass) (switchId : String) (service : Store.Service) : Pass :=
  { pass with servers := Table.put SwitchServer.switchId ⟨switchId, service⟩ pass.servers }

/-- Collects an address behind a switch. -/
def Pass.withEntry (pass : Pass) (switchId networkId portId : String) (d : Desired) : Pass :=
  let entries := match Table.find? SwitchGroup.switchId switchId pass.groups with
    | some group => group.entries
    | none => []
  { pass with
    groups := Table.put SwitchGroup.switchId ⟨switchId, networkId, entries ++ [(portId, d)]⟩
      pass.groups }

/-- The switch behind a network, if a subnet is there and served by DHCP. -/
def switchFor (subnet : Option Subnet) (networkId : String) : Handler (Option String) :=
  match subnet with
  | some s => if s.servesDhcp then Handler.execute (.getSwitch networkId) else return none
  | none => return none

/-- The network's server and whether it was made now. -/
def ensureService (settings : Settings) (s : Subnet) (p : Port) :
    Handler (Store.Service × Bool) :=
  Handler.locked (.network p.networkId) do
    match ← Handler.execute (.getService p.networkId) with
    | some service => return (service, false)
    | none =>
      match ← Handler.query (.network p.networkId) with
      | none => throw (.notFound (.network p.networkId))
      | some n =>
        let service ← createService settings n s p
        return (service, true)

/-- The report with one more server. -/
def ResyncReport.withServer (r : ResyncReport) : Except Error (Store.Service × Bool) → ResyncReport
  | .ok (_, true) => { r with serversCreated := r.serversCreated + 1 }
  | .ok (_, false) => { r with serversReused := r.serversReused + 1 }
  | .error _ => { r with serversFailed := r.serversFailed + 1 }

/-- The report with one more binding. -/
def ResyncReport.withBinding (r : ResyncReport) : Except Error Unit → ResyncReport
  | .ok () => { r with bindingsCreated := r.bindingsCreated + 1 }
  | .error _ => { r with bindingsFailed := r.bindingsFailed + 1 }

/-- A DHCP port: its first IPv4 address says which subnet its network's server is for. -/
def passDhcpPort (settings : Settings) (p : Port) (pass : Pass) : Handler Pass := do
  match p.ipv4s with
  | [] => return pass
  | (subnetId, _) :: _ =>
    let (subnet, pass) ← pass.subnet subnetId
    match subnet, ← switchFor subnet p.networkId with
    | some s, some switchId =>
      let result ← Handler.attempt (ensureService settings s p)
      let pass := { pass with report := pass.report.withServer result }
      match result with
      | .ok (service, _) => return pass.withServer switchId service
      | .error _ => return pass
    | _, _ => return pass

/-- An instance port: every IPv4 address in a subnet served by DHCP is to be bound. -/
def passComputePort (p : Port) (pass : Pass) : Handler Pass :=
  p.ipv4s.foldlM
    (fun pass (subnetId, ip) => do
      let (subnet, pass) ← pass.subnet subnetId
      match ← switchFor subnet p.networkId with
      | some switchId =>
        return pass.withEntry switchId p.networkId p.id ⟨subnetId, ip, p.macAddress⟩
      | none => return pass)
    pass

/-- One port of the pass. -/
def passPort (settings : Settings) (pass : Pass) (p : Port) : Handler Pass :=
  match p.role with
  | .dhcp => passDhcpPort settings p pass
  | .compute => passComputePort p pass
  | .other => return pass

/-- Binds the addresses behind one switch, if a server was found for it. -/
def bindGroup (settings : Settings) (servers : List SwitchServer) (report : ResyncReport)
    (group : SwitchGroup) : Handler ResyncReport :=
  match Table.find? SwitchServer.switchId group.switchId servers with
  | none => return report
  | some server =>
    Handler.locked (.network group.networkId) do
      group.entries.foldlM
        (fun report (portId, d) => do
          let result ← Handler.attempt (bindAddress settings portId d server.service)
          return report.withBinding result)
        report

/-- The groups in the order of their switches. -/
def orderedGroups (groups : List SwitchGroup) : List SwitchGroup :=
  groups.mergeSort fun a b => a.switchId ≤ b.switchId

/-- Rebuilds servers and bindings of all ports. A profile, if given, stands in for the one of the
settings when servers are made. -/
def resync (settings : Settings) (profileId : Option String) : Handler ResyncReport := do
  let forServers := settings.withDhcpProfile profileId
  Handler.setting forServers.validateResync
  let ports ← Handler.query .ports
  let pass ← ports.foldlM (passPort forServers) Pass.start
  let report ← (orderedGroups pass.groups).foldlM (bindGroup settings pass.servers) pass.report
  Handler.report (.resyncFinished (report.serversCreated + report.serversReused)
    report.bindingsCreated (report.serversFailed + report.bindingsFailed))
  return report

end Overlay.Dhcp
