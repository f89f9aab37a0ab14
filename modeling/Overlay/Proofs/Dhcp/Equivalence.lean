import Overlay.Proofs.Dhcp.Arrivals
import Overlay.Proofs.Dhcp.Outcome

/-!
# One by one or all at once

The records of a network whose tenants are known can be made in two ways: each port is handled when
it is created, DHCP ports first, or all of them are taken up by one pass. The first way lists the
subnets of a port's network and looks up the network's server, the second looks up the subnet of
each address and goes by switches. If nothing fails and every network has a switch of its own, both
make the same servers for the same ports and then bind the same addresses of each instance port on
the same server, so both come to the same (`alike_of_plain`).

Main statement: `arrivals_alike_resync`.
-/

namespace Overlay.Dhcp

open Overlay.Controller (HeldServer HeldBinding)

variable {c : Catalog} {settings : Settings} {p : Port}

/-! ## The addresses of one port -/

/-- What the tenants' records keep to: identifiers are distinct, a port has addresses in subnets of
its own network, as far as these are there, and a DHCP port has at most one. -/
structure InOrder (c : Catalog) : Prop where
  subnets : Table.Keyed Subnet.id c.subnets
  ports : Table.Keyed Port.id c.ports
  within : ∀ p ∈ c.ports, ∀ f ∈ p.fixedIps, ∀ s ∈ c.subnets, s.id = f.subnetId →
    s.networkId = p.networkId
  single : ∀ p ∈ c.ports, p.role = .dhcp → p.ipv4s.length ≤ 1

/-- A subnet of an address is found to be served when it is looked up just if it is one of the
served subnets of the port's network. -/
theorem servedIn_iff (inOrder : InOrder c) (hp : p ∈ c.ports) {f : String × IPv4}
    (hf : f ∈ p.ipv4s) : servedIn c f.1 = true ↔
      f.1 ∈ ((c.subnets.filter (·.networkId = p.networkId)).filter (·.servesDhcp)).map (·.id) := by
  obtain ⟨g, hg, made⟩ := List.mem_filterMap.mp hf
  obtain ⟨ip, -, rfl⟩ := Option.map_eq_some_iff.mp made
  rw [servedIn, List.mem_map]
  constructor
  · intro serves
    cases found : Table.find? Subnet.id g.subnetId c.subnets with
    | none =>
        rw [found] at serves
        cases serves
    | some s =>
        rw [found] at serves
        obtain ⟨hs, id⟩ := Table.mem_of_find? found
        refine ⟨s, List.mem_filter.mpr ⟨List.mem_filter.mpr ⟨hs, ?_⟩, serves⟩, id⟩
        exact decide_eq_true (inOrder.within p hp g hg s hs id)
  · rintro ⟨s, hs, id⟩
    obtain ⟨hs, serves⟩ := List.mem_filter.mp hs
    have found := inOrder.subnets.find? (List.mem_filter.mp hs).1
    rw [id] at found
    rw [found]
    exact serves

/-- What a pass collects of a port is what is to be bound when the port comes. -/
theorem portEntries_eq (inOrder : InOrder c) (hp : p ∈ c.ports) (compute : p.isCompute = true) :
    portEntries c p = (wantedBindings c p).map fun d => (p.id, d) := by
  rw [portEntries, entriesOf, wantedBindings, desiredBindings, if_pos compute, List.map_map,
    List.filter_congr fun f hf => ?_]
  · rfl
  · rw [Bool.eq_iff_iff, decide_eq_true_iff]
    exact servedIn_iff inOrder hp hf

/-! ## What is written for one port -/

/-- A binding as it is written into a row: the server by its name. -/
def written (b : Store.Service × String × Desired) : String × String × Desired :=
  (b.1.serverId, b.2)

/-- What is written for a port, if these are the services. -/
def portRows (services : List Store.Service) (c : Catalog) (p : Port) :
    List (String × String × Desired) :=
  match Table.find? Store.Service.networkId p.networkId services with
  | some x => (portEntries c p).map fun e => (x.serverId, e)
  | none => []

/-- What is written for the port of this identifier, if it is an instance's. -/
def rowsFor (services : List Store.Service) (c : Catalog) (portId : String) :
    List (String × String × Desired) :=
  match Table.find? Port.id portId c.ports with
  | some p => if p.isCompute then portRows services c p else []
  | none => []

theorem isCompute_iff : p.isCompute = true ↔ p.role = .compute := by
  rw [Port.isCompute, beq_iff_eq]

/-- Times do not matter. -/
theorem rowsFor_congr {services services' : List Store.Service}
    (same : services.map owner = services'.map owner) (c : Catalog) (portId : String) :
    rowsFor services c portId = rowsFor services' c portId := by
  have found : ∀ (services : List Store.Service) (networkId : String),
      (Table.find? Store.Service.networkId networkId services).map owner
        = Table.find? Prod.fst networkId (services.map owner) := fun services networkId =>
    (Table.find?_map fun x _ => by exact Iff.rfl).symm
  have rows : ∀ (services : List Store.Service) (p : Port), portRows services c p
      = match Table.find? Prod.fst p.networkId (services.map owner) with
        | some o => (portEntries c p).map fun e => (o.2.2, e)
        | none => [] := by
    intro services p
    rw [portRows, ← found]
    cases Table.find? Store.Service.networkId p.networkId services <;> rfl
  rw [rowsFor, rowsFor]
  simp only [rows, same]

theorem tag_portRows {services : List Store.Service} {e : String × String × Desired}
    (he : e ∈ portRows services c p) : e.2.1 = p.id := by
  rw [portRows] at he
  split at he
  · obtain ⟨f, hf, rfl⟩ := List.mem_map.mp he
    exact tag_portEntries hf
  · exact nomatch he

/-- One by one: what is written for a port is written when the port comes. -/
theorem arrivals_rows (inOrder : InOrder c) (services : List Store.Service) (portId : String) :
    (((c.ports.filter fun p => p.role = .compute).flatMap (portBinds services c)).map
      written).filter (fun e => e.2.1 = portId) = rowsFor services c portId := by
  have kind : (fun p : Port => decide (p.role = .compute)) = Port.isCompute := by
    funext p
    rw [Bool.eq_iff_iff, decide_eq_true_iff, isCompute_iff]
  have bound : ∀ p ∈ c.ports.filter Port.isCompute,
      (portBinds services c p).map written = portRows services c p := by
    intro p hp
    obtain ⟨hp, compute⟩ := List.mem_filter.mp hp
    rw [portBinds, portRows, portEntries_eq inOrder hp compute]
    cases Table.find? Store.Service.networkId p.networkId services with
    | none => rfl
    | some x =>
        dsimp only
        rw [List.map_map, List.map_map]
        rfl
  rw [kind, List.map_flatMap, List.flatMap_def, List.map_congr_left bound, ← List.flatMap_def]
  rw [inOrder.ports.filter_flatMap (f := portRows services c) _ fun p _ e => tag_portRows, rowsFor]
  cases Table.find? Port.id portId c.ports <;> rfl

/-! ## All at once -/

/-- A server is made only for a network that is there. -/
theorem mem_serversFor {taken : List String} {ports : List Port}
    {s : String × String × DhcpServerConfig} (h : s ∈ serversFor c settings taken ports) :
    ∃ n ∈ c.networks, n.id = s.1 := by
  induction ports generalizing taken with
  | nil => cases h
  | cons p rest ih =>
      rw [serversFor] at h
      rcases List.mem_append.mp h with here | there
      · have made := Option.mem_toList.mp here
        rw [serverFor] at made
        split at made
        · cases made
        · split at made
          · cases made
          · obtain ⟨config, wanted, rfl⟩ := Option.map_eq_some_iff.mp made
            rw [wantedServer] at wanted
            split at wanted
            · cases wanted
            · split at wanted
              · obtain ⟨n, found, -⟩ := Option.bind_eq_some_iff.mp wanted
                exact ⟨n, Table.mem_of_find? found⟩
              · cases wanted
      · exact ih there

section Pass

variable {w : World} {l l' : Ledger} {pass : Pass}

/-- Behind the switch of a network a pass finds the network's service, if there is one. -/
theorem find?_server (smooth : Smooth w l) (sound : pass.Sound l) (complete : pass.Complete l)
    {networkId switchId : String} (here : l.switch? networkId = some switchId) :
    (Table.find? SwitchServer.switchId switchId pass.servers).map (·.service)
      = Table.find? Store.Service.networkId networkId l.services := by
  cases found : Table.find? Store.Service.networkId networkId l.services with
  | some x =>
      obtain ⟨hx, rfl⟩ := Table.mem_of_find? found
      rw [complete x hx switchId here]
      rfl
  | none =>
      cases there : Table.find? SwitchServer.switchId switchId pass.servers with
      | none => rfl
      | some v =>
          obtain ⟨hv, rfl⟩ := Table.mem_of_find? there
          obtain ⟨hx, behind⟩ := sound v hv
          -- a server found there is that of a network with the same switch
          have same := smooth.injective _ _ _ behind here
          exact absurd same (Table.find?_eq_none_iff.mp found v.service hx)

/-- What is bound of a port is what its network's server has for it. -/
theorem portBindings_written (smooth : Smooth w l) (sound : pass.Sound l)
    (complete : pass.Complete l)
    (there : ∀ x ∈ l.services, ∃ n ∈ w.catalog.networks, n.id = x.networkId) (p : Port) :
    (portBindings pass.servers l.switch? w.catalog p).map written
      = portRows l.services w.catalog p := by
  rw [portBindings, portRows]
  cases here : l.switch? p.networkId with
  | some switchId =>
      rw [← find?_server smooth sound complete here, Option.bind_some]
      cases Table.find? SwitchServer.switchId switchId pass.servers with
      | none => rfl
      | some v =>
          dsimp only [Option.map_some]
          rw [List.map_map]
          rfl
  | none =>
      -- a network with a server is there, and so it has a switch
      have unserved : Table.find? Store.Service.networkId p.networkId l.services = none := by
        refine Table.find?_eq_none_iff.mpr fun x hx same => ?_
        obtain ⟨n, hn, id⟩ := there x hx
        obtain ⟨switchId, behind⟩ := smooth.covered n hn
        rw [id, same, here] at behind
        cases behind
      rw [unserved]
      rfl

/-- All at once: what is written for a port is what its network's server has for it. -/
theorem pass_rows (inOrder : InOrder w.catalog) {acts : List Act}
    (toured : Toured w l settings w.catalog.ports pass acts l') (switches : l'.switch? = l.switch?)
    (smooth : Smooth w l') (complete : pass.Complete l')
    (there : ∀ x ∈ l'.services, ∃ n ∈ w.catalog.networks, n.id = x.networkId) (portId : String) :
    ((((orderedGroups pass.groups).flatMap (groupBinds pass.servers)).map written).filter
      fun e => e.2.1 = portId) = rowsFor l'.services w.catalog portId := by
  have bound := toured.binds_filter inOrder.ports portId
  rw [List.filter_map, show (fun e : String × String × Desired => decide (e.2.1 = portId)) ∘ written
    = fun b => decide (b.2.1 = portId) from rfl, bound, rowsFor]
  cases Table.find? Port.id portId w.catalog.ports with
  | none => rfl
  | some p =>
      dsimp only
      split
      · rw [← switches]
        exact portBindings_written smooth toured.sound complete there p
      · rfl

end Pass

/-! ## Nothing fails -/

section Plain

variable {w w' : World} {made binds : List Act}

/-- If nothing fails, servers and bindings that are made are made by plain acts. -/
theorem plain_of_calm (calm : w.Calm) (accounts : w.Accounts (made ++ binds) w')
    (serves : ∀ a ∈ made, ∃ s, a.served? = some s)
    {list : List (Store.Service × String × Desired)} (aims : Aims w list binds) :
    ∀ a ∈ made ++ binds, a.Plain := by
  intro a ha
  have clean := accounts.clean calm a ha
  rcases List.mem_append.mp ha with making | binding
  · obtain ⟨s, served⟩ := serves a making
    cases a <;> trivial
  · obtain ⟨b, -, aim⟩ := aims.1 a binding
    cases a with
    | bind x portId d time missing =>
        cases missing with
        | none => rfl
        | some e => exact nomatch clean
    | leak x portId d e => exact nomatch clean
    | _ => exact nomatch aim

/-- Servers first, then bindings: rows are written by the latter. -/
theorem wrote_made_then_bound (serves : ∀ a ∈ made, ∃ s, a.served? = some s) :
    (made ++ binds).filterMap Act.wrote? = (binds.filterMap Act.bound?).map written := by
  have none_wrote : made.filterMap Act.wrote? = [] := by
    refine List.filterMap_eq_nil_iff.mpr fun a ha => ?_
    obtain ⟨s, served⟩ := serves a ha
    cases a <;> first | rfl | exact nomatch served
  rw [List.filterMap_append, none_wrote, List.nil_append, List.map_filterMap]
  rfl

/-- Servers first, then bindings: what the acts make and write. -/
theorem made_then_bound (serves : ∀ a ∈ made, ∃ s, a.served? = some s)
    {list : List (Store.Service × String × Desired)} (calm : w.Calm) (aims : Aims w list binds) :
    (made ++ binds).filterMap Act.served? = made.filterMap Act.served? ∧
      (made ++ binds).filterMap Act.wrote? = list.map written := by
  have none_served : binds.filterMap Act.served? = [] := by
    refine List.filterMap_eq_nil_iff.mpr fun a ha => ?_
    obtain ⟨b, -, aim⟩ := aims.1 a ha
    cases a <;> first | rfl | exact nomatch aim
  refine ⟨by rw [List.filterMap_append, none_served, List.append_nil], ?_⟩
  rw [wrote_made_then_bound serves, aims.2 calm]

end Plain

/-! ## Both ways -/

/-- No service and no binding is remembered, the mappings are there, and what the controller holds
has names of its own: none occurs twice, and none is one that is still to be given. -/
structure Unserved (w : World) : Prop where
  services : w.store.services = some []
  bindings : w.store.bindings = some []
  networks : w.store.networks ≠ none
  ports : w.store.ports ≠ none
  servers_keyed : Table.Keyed HeldServer.id w.controller.servers
  held_keyed : Table.Keyed HeldBinding.id w.controller.bindings
  servers_new : ∀ k, w.controller.made.servers < k →
    ∀ v ∈ w.controller.servers, v.id ≠ Controller.State.serverName k
  held_new : ∀ k, w.controller.made.bindings < k →
    ∀ h ∈ w.controller.bindings, h.id ≠ Controller.State.bindingName k

theorem Unserved.ledger {w : World} (unserved : Unserved w) :
    ∃ l, w.Shows l ∧ l.Linked ∧ l.services = [] ∧ l.rows = [] ∧ l.networks = w.store.networks ∧
      l.ports = w.store.ports := by
  refine ⟨⟨[], [], w.controller.servers, w.controller.bindings, w.controller.made.servers,
    w.controller.made.bindings, w.store.networks, w.store.ports⟩, ?_, ?_, rfl, rfl, rfl, rfl⟩
  · exact {
      store := ⟨unserved.services, unserved.bindings, fun _ h => (nomatch h),
        fun _ h => (nomatch h)⟩
      controller := ⟨rfl, rfl, rfl, rfl⟩
      networks := rfl
      ports := rfl }
  · exact {
      services_keyed := Table.keyed_nil _
      rows_keyed := Table.keyed_nil _
      names_keyed := Table.keyed_nil _
      servers_keyed := unserved.servers_keyed
      held_keyed := unserved.held_keyed
      servers_new := unserved.servers_new
      held_new := unserved.held_new
      server_of_service := fun _ h => nomatch h
      service_of_row := fun _ h => nomatch h
      held_of_row := fun _ h => nomatch h }

/-- Two surroundings are the same as far as DHCP goes, but for times, for the names of bindings and
for the order of rows and bindings. -/
structure SameDhcp (w w' : World) (services services' : List Store.Service)
    (rows rows' : List Store.Binding) : Prop where
  store : w.store.Holds services rows
  store' : w'.store.Holds services' rows'
  /-- Each network has a server with the same name that was made for the same port. -/
  owners : services.map owner = services'.map owner
  servers : w.controller.servers = w'.controller.servers
  rows : (rows.map entry).Perm (rows'.map entry)
  held : (w.controller.bindings.map content).Perm (w'.controller.bindings.map content)

theorem SameDhcp.of_alike {w w' : World} {l l' : Ledger} (shows : w.Shows l) (shows' : w'.Shows l')
    (alike : Alike l l') : SameDhcp w w' l.services l'.services l.rows l'.rows where
  store := shows.store
  store' := shows'.store
  owners := alike.services
  servers := by
    rw [shows.controller.servers_eq, shows'.controller.servers_eq]
    exact alike.servers
  rows := alike.rows
  held := by
    rw [shows.controller.bindings_eq, shows'.controller.bindings_eq]
    exact alike.held

theorem of_validate (valid : settings.validate = .ok ()) :
    settings.nativeDhcp = true ∧ settings.validateResync = .ok () := by
  rw [Settings.validate] at valid
  rw [Settings.validateResync]
  cases native : settings.nativeDhcp with
  | false =>
      rw [native] at valid
      exact nomatch valid
  | true =>
      rw [native] at valid
      cases notified : settings.agentNotification with
      | true =>
          rw [notified] at valid
          exact nomatch valid
      | false =>
          rw [notified] at valid
          cases profile : settings.dhcpProfile with
          | error e =>
              rw [profile] at valid
              exact nomatch valid
          | ok id => exact ⟨rfl, rfl⟩

/-- Servers are made for networks that are there. -/
theorem networks_there {l between : Ledger} {made : List Act} (path : Path l made between)
    (none : l.services = []) (serves : ∀ a ∈ made, ∃ s, a.served? = some s) {ports : List Port}
    (exactly : made.filterMap Act.served?
      = serversFor c settings (l.services.map (·.networkId)) ports) :
    ∀ x ∈ between.services, ∃ n ∈ c.networks, n.id = x.networkId := by
  intro x hx
  have networks := path.networks_eq (builds_of_served serves)
  rw [none, List.map_nil, List.nil_append] at networks
  have here : x.networkId ∈ between.services.map (·.networkId) := List.mem_map.mpr ⟨x, hx, rfl⟩
  rw [networks] at here
  obtain ⟨s, hs, same⟩ := List.mem_map.mp here
  rw [exactly] at hs
  obtain ⟨n, hn, id⟩ := mem_serversFor hs
  exact ⟨n, hn, id.trans same⟩

/-- Where nothing is served yet and nothing fails, creating all DHCP ports and then all instance
ports, in the order of the catalog, comes to the same as one rebuilding pass. Nothing fails at the
store either, so both are done while times can still be read back. -/
theorem arrivals_alike_resync (valid : settings.validate = .ok ()) {w : World} (calm : w.Calm)
    (inOrder : InOrder w.catalog) (unserved : Unserved w)
    (covered : ∀ n ∈ w.catalog.networks, ∃ switchId, w.switch? n.id = some switchId)
    (injective : ∀ m n switchId, w.switch? m = some switchId → w.switch? n = some switchId → m = n)
    (timely : (afterArrivals settings w ((w.catalog.ports.filter fun p => p.role = .dhcp) ++
      w.catalog.ports.filter fun p => p.role = .compute)).clock.Legible)
    (timely' : ((resync settings none).runIn w).2.clock.Legible) :
    ∃ services services' rows rows',
      SameDhcp (afterArrivals settings w ((w.catalog.ports.filter fun p => p.role = .dhcp) ++
        w.catalog.ports.filter fun p => p.role = .compute)) ((resync settings none).runIn w).2
        services services' rows rows' := by
  obtain ⟨l, shows, linked, services, rows, networks, ports⟩ := unserved.ledger
  obtain ⟨native, resyncable⟩ := of_validate valid
  have smooth : Smooth w l := {
    calm
    networks := networks ▸ unserved.networks
    ports := ports ▸ unserved.ports
    covered := shows.switch?_eq ▸ covered
    injective := shows.switch?_eq ▸ injective }
  -- one by one
  have live := goes_arrivals shows linked native w.catalog.ports inOrder.single
  rw [Handler.Goes, Handler.Completes, Handler.Ends, runIn_arrivals] at live
  obtain ⟨acts, l₁, path, shows₁, accounts, made, binds, between, rfl, path_made, path_binds,
    ⟨serves, exactly⟩, aims⟩ := live timely
  have exactly := exactly smooth
  have plain := plain_of_calm calm accounts serves aims
  obtain ⟨made_all, wrote⟩ := made_then_bound serves calm aims
  -- all at once
  obtain ⟨acts', l₂, path', shows₂, accounts', rebuilt⟩ :=
    goes_resync shows linked settings none timely'
  rcases rebuilt with ⟨pass, made', binds', between', rfl, path_made', path_binds', toured, aims'⟩
    | ⟨-, rough⟩
  case inr => exact absurd ⟨smooth, resyncable⟩ rough
  have plain' := plain_of_calm calm accounts' toured.serves aims'
  obtain ⟨made_all', wrote'⟩ := made_then_bound toured.serves calm aims'
  have exactly' := toured.servers smooth
  -- both make the same servers
  have same : made.filterMap Act.served? = made'.filterMap Act.served? :=
    exactly.trans exactly'.symm
  have owners : between.services.map owner = between'.services.map owner := by
    rw [(path_made.servers_eq fun a ha => plain a (List.mem_append_left _ ha)).1,
      (path_made'.servers_eq fun a ha => plain' a (List.mem_append_left _ ha)).1, same]
  refine ⟨_, _, _, _, .of_alike shows₁ shows₂ (alike_of_plain linked rows path path' plain plain'
    ?_ fun portId => ?_)⟩
  · rw [made_all, made_all', same]
  · have smooth' := smooth.follows (.refl w) path_made'
    have complete := toured.complete smooth fun x hx => nomatch services ▸ hx
    rw [wrote, wrote', arrivals_rows inOrder, pass_rows inOrder toured path_made'.switch?_eq smooth'
      complete (networks_there path_made' services toured.serves exactly')]
    exact rowsFor_congr owners w.catalog portId

theorem Sample.inOrder : InOrder Sample.catalog where
  subnets := by decide
  ports := by decide
  within := by decide
  single := by decide

theorem Sample.unserved : Unserved Sample.world where
  services := rfl
  bindings := rfl
  networks := nofun
  ports := nofun
  servers_keyed := Table.keyed_nil _
  held_keyed := Table.keyed_nil _
  servers_new _ _ _ hv := nomatch hv
  held_new _ _ _ hh := nomatch hh

/-- The first network is served either way, and its instance's address is bound. -/
theorem first_network_either_way :
    ((resync Sample.settings none).runIn Sample.world).2.controller.bindings.length = 1 ∧
      ∃ services services' rows rows', SameDhcp
        (afterArrivals Sample.settings Sample.world [Sample.dhcpPort, Sample.instancePort])
        ((resync Sample.settings none).runIn Sample.world).2 services services' rows rows' := by
  refine ⟨by decide +kernel, arrivals_alike_resync rfl Sample.calm
    Sample.inOrder Sample.unserved (fun n hn => ⟨"switch", ?_⟩) (Sample.separate rfl)
    (by decide +kernel) (by decide +kernel)⟩
  rw [show n.id = "net" by rw [List.mem_singleton.mp hn]]
  rfl

end Overlay.Dhcp
