import Overlay.Proofs.Dhcp.Coherent

/-!
# Whose server a rebuilding pass binds on

A pass keeps the servers that it finds by switch, and by switch it collects the addresses that are to
be bound. So the row of an address names the server of a network that lies behind the same switch as
the network of its port and has a DHCP port in the catalog. This is the port's own network, unless
networks share a switch.

Main statement: `rows_behind_switch`.
-/

namespace Overlay.Dhcp

open Overlay.Handler

variable {w : World} {l : Ledger}

/-! ## Rows that are made -/

/-- Where things are only made, a row that was not there before was written as an address was
bound. -/
theorem Path.row_bound {l' : Ledger} {acts : List Act} (path : Path l acts l') (linked : l.Linked)
    (builds : ∀ a ∈ acts, a.Builds) {b : Store.Binding} (hb : b ∈ l'.rows) (new : b ∉ l.rows) :
    ∃ a ∈ acts, ∃ x d, a.aim? = some (x, b.portId, d) ∧ x.serverId = b.serverId := by
  have written : l'.Linked ∧ ∀ b ∈ l'.rows, b ∈ l.rows ∨
      ∃ a ∈ acts, ∃ x d, a.aim? = some (x, b.portId, d) ∧ x.serverId = b.serverId := by
    refine path.keeps (P := fun m => m.Linked ∧ ∀ b ∈ m.rows, b ∈ l.rows ∨
      ∃ a ∈ acts, ∃ x d, a.aim? = some (x, b.portId, d) ∧ x.serverId = b.serverId)
      ⟨linked, fun b => Or.inl⟩ ?_
    rintro a ha m fits ⟨linked', here⟩
    refine ⟨linked'.apply fits, fun b hb => ?_⟩
    rcases Act.row_cases linked' fits hb with old | ⟨x, portId, d, time, missing, rfl, rfl⟩ |
      ⟨c, d, time, rfl, -, -⟩
    · exact here b old
    · have place : ∀ rows, ((m.newRow x portId d time).inPlace rows).portId = portId ∧
          ((m.newRow x portId d time).inPlace rows).serverId = x.serverId := by
        intro rows
        rw [Store.Binding.inPlace]
        split <;> exact ⟨rfl, rfl⟩
      obtain ⟨port, server⟩ := place m.rows
      exact Or.inr ⟨_, ha, x, d, by rw [port]; rfl, server.symm⟩
    · exact (builds _ ha).elim
  exact (written.2 b hb).resolve_left new

/-! ## Servers by switch -/

/-- The network lies behind the switch and has a DHCP port in the catalog. -/
def LiesBehind (w : World) (switchId networkId : String) : Prop :=
  w.switch? networkId = some switchId ∧
    ∃ q ∈ w.catalog.ports, q.role = .dhcp ∧ q.networkId = networkId

/-- What a pass binds is an address of an instance port of the catalog, on the server of a network
behind the switch of the port's network. -/
theorem Rebuilt.aimed (shows : w.Shows l) {settings : Settings} {acts : List Act} {l' : Ledger}
    (rebuilt : Rebuilt w l settings acts l') {a : Act} (ha : a ∈ acts) {x : Store.Service}
    {portId : String} {d : Desired} (aim : a.aim? = some (x, portId, d)) : x ∈ l'.services ∧
      ∃ p ∈ w.catalog.ports, p.id = portId ∧ ∃ switchId, w.switch? p.networkId = some switchId ∧
        LiesBehind w switchId x.networkId := by
  -- an act that makes a server binds nothing
  have unaimed : ∀ {s : String × String × DhcpServerConfig}, a.served? ≠ some s := by
    intro s served
    cases a <;> cases aim <;> exact nomatch served
  rcases rebuilt with ⟨pass, made, binds, between, rfl, path, path', toured, aims⟩ | ⟨serves, -⟩
  case inr =>
    obtain ⟨s, served⟩ := serves a ha
    exact absurd served unaimed
  rcases List.mem_append.mp ha with early | late
  · obtain ⟨s, served⟩ := toured.serves a early
    exact absurd served unaimed
  obtain ⟨b, hb, aim'⟩ := aims.1 a late
  cases aim.symm.trans aim'
  obtain ⟨group, hg, hb⟩ := List.mem_flatMap.mp hb
  obtain ⟨s, hs, switch, rfl, he⟩ := mem_groupBinds hb
  rw [toured.entries_eq (List.mem_mergeSort.mp hg)] at he
  obtain ⟨p, hp, here, id, -⟩ := mem_collected he
  obtain ⟨there, behind⟩ := toured.sound s hs
  obtain ⟨q, hq, role, network⟩ := toured.origin s hs
  rw [path.switch?_eq, shows.switch?_eq, switch] at behind
  rw [shows.switch?_eq] at here
  exact ⟨path'.mem_services aims.builds there, p, hp, id, _, here, behind, q, hq, role,
    network.symm⟩

/-- Whatever fails in a pass, a row that it writes for a port names the server that is recorded for a
network with a DHCP port behind the switch of the port's network; where no other network with a DHCP
port lies behind this switch, it is the server of the port's own network. -/
theorem rows_behind_switch {services : List Store.Service} {rows : List Store.Binding}
    (coherent : Coherent w services rows) (distinct : (w.catalog.ports.map (·.id)).Nodup)
    (settings : Settings) (profileId : Option String)
    (timely : ((resync settings profileId).runIn w).2.clock.Legible) :
    ∃ services' rows', ((resync settings profileId).runIn w).2.store.Holds services' rows' ∧
      ∀ b ∈ rows', b ∉ rows → (∃ p ∈ w.catalog.ports, p.id = b.portId) ∧
        ∀ p ∈ w.catalog.ports, p.id = b.portId →
          ∃ switchId, w.switch? p.networkId = some switchId ∧
            ∃ x ∈ services', x.serverId = b.serverId ∧ LiesBehind w switchId x.networkId ∧
              ((∀ n, LiesBehind w switchId n → n = p.networkId) → x.networkId = p.networkId) := by
  obtain ⟨acts, l', path, shows, -, rebuilt⟩ :=
    goes_resync coherent.shows coherent.linked settings profileId timely
  refine ⟨l'.services, l'.rows, shows.store, fun b hb new => ?_⟩
  obtain ⟨a, ha, x, d, aim, server⟩ :=
    path.row_bound coherent.linked (fun a ha => (rebuilt.sourced a ha).1) hb new
  obtain ⟨hx, p, hp, id, switchId, here, behind⟩ := rebuilt.aimed coherent.shows ha aim
  refine ⟨⟨p, hp, id⟩, fun p' hp' id' => ?_⟩
  cases Table.Keyed.eq_of_key distinct hp' hp (id'.trans id.symm)
  exact ⟨switchId, here, x, hx, server, behind, fun only => only _ behind⟩

/-! ## Three networks behind one switch -/

namespace Sample

/-- A served subnet with the same addresses in each network. -/
def subnetOf (networkId : String) : Subnet :=
  ⟨networkId ++ "-subnet", networkId, .v4 (block ⟨10, 0, 0, 0⟩), true, none, [], []⟩

def portOf (networkId owner : String) (address : IPv4) : Port :=
  ⟨networkId ++ "-" ++ owner, networkId, "", "fa:16:3e:00:00:01", owner,
    [⟨networkId ++ "-subnet", .v4 address⟩]⟩

/-- Two of the networks have a DHCP port, and the first and the last one have an instance's port. -/
def sharing : World :=
  { world with
    catalog := {
      networks := [⟨"a", "a", "tenant"⟩, ⟨"b", "b", "tenant"⟩, ⟨"c", "c", "tenant"⟩]
      subnets := [subnetOf "a", subnetOf "b", subnetOf "c"]
      ports := [portOf "a" "network:dhcp" ⟨10, 0, 0, 2⟩, portOf "a" "compute:nova" ⟨10, 0, 0, 5⟩,
        portOf "b" "network:dhcp" ⟨10, 0, 0, 3⟩, portOf "c" "compute:nova" ⟨10, 0, 0, 6⟩] }
    store := { Store.empty with
      networks := some [⟨"a", "switch"⟩, ⟨"b", "switch"⟩, ⟨"c", "switch"⟩] } }

end Sample

/-- On the first network the instance's row names the server that was made in the same pass. -/
theorem first_network_on_its_server :
    ((resync Sample.settings none).runIn Sample.world).2.store.bindings.map List.length = some 1 ∧
    ∃ services rows,
      ((resync Sample.settings none).runIn Sample.world).2.store.Holds services rows ∧
      ∀ b ∈ rows, ∃ x ∈ services, x.serverId = b.serverId ∧ x.networkId = "net" := by
  have coherent : Coherent Sample.world [] [] :=
    Sample.coherent_start ⟨rfl, rfl, rfl, rfl, rfl, rfl⟩
  have distinct : (Sample.world.catalog.ports.map (·.id)).Nodup := by decide
  have timely : ((resync Sample.settings none).runIn Sample.world).2.clock.Legible := by
    show Clock.Legible _
    decide +kernel
  obtain ⟨services, rows, holds, behind⟩ :=
    rows_behind_switch coherent distinct Sample.settings none timely
  refine ⟨by decide +kernel, services, rows, holds, fun b hb => ?_⟩
  obtain ⟨⟨p, hp, id⟩, all⟩ := behind b hb List.not_mem_nil
  obtain ⟨switchId, -, x, hx, server, ⟨-, q, hq, -, network⟩, -⟩ := all p hp id
  have alone : ∀ q ∈ Sample.world.catalog.ports, q.networkId = "net" := by decide
  exact ⟨x, hx, server, network.symm.trans (alone q hq)⟩

/-- Behind a switch that is shared, the address of the first network's instance is bound on the
second network's server, though the first network has its own; and the third network's instance is
bound there too, though this network has no server at all. -/
theorem shared_switch_mixes_servers :
    Coherent Sample.sharing [] [] ∧ (Sample.sharing.catalog.ports.map (·.id)).Nodup ∧
    Sample.sharing.catalog.ports.map (fun p => (p.id, p.networkId))
      = [("a-network:dhcp", "a"), ("a-compute:nova", "a"), ("b-network:dhcp", "b"),
        ("c-compute:nova", "c")] ∧
    ((resync Sample.settings none).runIn Sample.sharing).1.isOk = true ∧
    ((resync Sample.settings none).runIn Sample.sharing).2.store.services.map
      (·.map fun x => (x.networkId, x.serverId)) = some [("a", "dhcp-1"), ("b", "dhcp-2")] ∧
    ((resync Sample.settings none).runIn Sample.sharing).2.store.bindings.map
      (·.map fun b => (b.portId, b.serverId))
        = some [("a-compute:nova", "dhcp-2"), ("c-compute:nova", "dhcp-2")] :=
  ⟨Sample.coherent_start ⟨rfl, rfl, rfl, rfl, rfl, rfl⟩, by decide, by decide, by decide +kernel,
    by decide +kernel, by decide +kernel⟩

end Overlay.Dhcp
