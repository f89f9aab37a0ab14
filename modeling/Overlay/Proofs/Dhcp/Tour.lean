import Overlay.Proofs.Dhcp.Descriptions
import Overlay.Proofs.Dhcp.Survey

/-!
# The first half of a rebuilding pass

A pass goes through the ports of the catalog before it binds any address. What it collects of
instance ports is a function of the catalog and of the mapping of networks to switches
(`collected`). On account of DHCP ports it seeks servers; `Asked` is what came of one of them, and
the list of these is what the pass counts servers by and remembers them from, whatever fails
(`Tallied`). If nothing fails and every network has a switch of its own, also the servers that are
made are a function of catalog and mapping (`serversFor`).

Main statement: `goes_passPorts`.
-/

namespace Overlay.Dhcp

open Overlay.Handler

variable {w : World} {l : Ledger} {c : Catalog}

/-! ## Servers that are made -/

/-- The network, port and description of a server that is made. -/
def Act.served? : Act → Option (String × String × DhcpServerConfig)
  | serve networkId portId config _ => some (networkId, portId, config)
  | _ => none

/-- An act that makes a server builds. -/
theorem Act.Builds.of_served {a : Act} {s : String × String × DhcpServerConfig}
    (h : a.served? = some s) : a.Builds := by
  cases a <;> trivial

/-- Acts that make servers build. -/
theorem builds_of_served {acts : List Act} (h : ∀ a ∈ acts, ∃ s, a.served? = some s) :
    ∀ a ∈ acts, a.Builds := by
  intro a ha
  obtain ⟨s, served⟩ := h a ha
  exact .of_served served

/-- The networks with a server after a path on which servers are made. -/
theorem Path.networks_eq {l l' : Ledger} {acts : List Act} (h : Path l acts l')
    (builds : ∀ a ∈ acts, a.Builds) : l'.services.map (·.networkId)
      = l.services.map (·.networkId) ++ (acts.filterMap Act.served?).map (·.1) := by
  induction h with
  | nil l => exact (List.append_nil _).symm
  | @cons l l' a acts fits rest ih =>
      obtain ⟨here, there⟩ := List.forall_mem_cons.mp builds
      rw [ih there]
      cases a with
      | serve networkId portId config time =>
          show (l.services ++ [_]).map _ ++ _ = _
          rw [List.map_append, List.append_assoc]
          rfl
      | readdress serverId ip => rfl
      | bind x portId d time missing =>
          obtain ⟨held, eq, -⟩ := (l.create x d).supersede_eq (l.row? portId d.address) missing
          rw [Act.apply, eq]
          rfl
      | leak x portId d e => rfl
      | retire _ _ => exact here.elim
      | move _ _ _ => exact here.elim
      | clash _ _ _ => exact here.elim
      | release _ _ => exact here.elim
      | stay _ _ => exact here.elim

/-- The server that is made for a DHCP port if its network is not among those that have one: with
network, port and description. -/
def serverFor (c : Catalog) (settings : Settings) (taken : List String) (p : Port) :
    Option (String × String × DhcpServerConfig) :=
  if p.networkId ∈ taken then none
  else
    match p.ipv4s with
    | [] => none
    | f :: _ => (wantedServer c settings p f.1).map fun config => (p.networkId, p.id, config)

/-- The servers that are made for DHCP ports one after the other, if these networks have one. -/
def serversFor (c : Catalog) (settings : Settings) (taken : List String) :
    List Port → List (String × String × DhcpServerConfig)
  | [] => []
  | p :: rest =>
    (serverFor c settings taken p).toList
      ++ serversFor c settings (taken ++ ((serverFor c settings taken p).map (·.1)).toList) rest

/-- No server is made for a port whose network has one. -/
theorem serverFor_taken (c : Catalog) (settings : Settings) {p : Port} {x : Store.Service}
    (hx : x ∈ l.services) (same : x.networkId = p.networkId) :
    serverFor c settings (l.services.map (·.networkId)) p = none :=
  if_pos (List.mem_map.mpr ⟨x, hx, same⟩)

/-- The server made for a port whose network has none is the one that is wanted for its first
address. -/
theorem serverFor_free (c : Catalog) (settings : Settings) {p : Port}
    (new : ∀ x ∈ l.services, x.networkId ≠ p.networkId) {f : String × IPv4}
    {rest : List (String × IPv4)} (first : p.ipv4s = f :: rest) :
    serverFor c settings (l.services.map (·.networkId)) p
      = (wantedServer c settings p f.1).map fun config => (p.networkId, p.id, config) := by
  have free : p.networkId ∉ l.services.map (·.networkId) := by
    intro taken
    obtain ⟨x, hx, same⟩ := List.mem_map.mp taken
    exact new x hx same
  rw [serverFor, if_neg free, first]

/-- The servers for more ports are made when those for the first ones are there. -/
theorem serversFor_append (c : Catalog) (settings : Settings) (taken : List String)
    (ports more : List Port) :
    serversFor c settings taken (ports ++ more) = serversFor c settings taken ports
      ++ serversFor c settings (taken ++ (serversFor c settings taken ports).map (·.1)) more := by
  induction ports generalizing taken with
  | nil =>
      rw [serversFor, List.map_nil, List.append_nil]
      rfl
  | cons p rest ih =>
      rw [List.cons_append, serversFor, serversFor, ih, List.map_append, List.append_assoc,
        List.append_assoc]
      cases serverFor c settings taken p <;> rfl

/-! ## Servers that are found -/

/-- Nothing fails, and every network of the catalog has a switch of its own. -/
structure Smooth (w : World) (l : Ledger) : Prop where
  calm : w.Calm
  networks : l.networks ≠ none
  ports : l.ports ≠ none
  covered : ∀ n ∈ w.catalog.networks, ∃ switchId, l.switch? n.id = some switchId
  injective : ∀ m n switchId, l.switch? m = some switchId → l.switch? n = some switchId → m = n

/-- What is smooth stays smooth as surroundings and ledger go on. -/
theorem Smooth.follows (smooth : Smooth w l) {w' : World} (f : w.Follows w') {acts : List Act}
    {l' : Ledger} (path : Path l acts l') : Smooth w' l' where
  calm := smooth.calm.follows f
  networks := path.mappings_eq.1 ▸ smooth.networks
  ports := path.mappings_eq.2 ▸ smooth.ports
  covered := by
    rw [path.switch?_eq, f.catalog]
    exact smooth.covered
  injective := by
    rw [path.switch?_eq]
    exact smooth.injective

/-- The servers that a pass has found are there, behind the switches of their networks. -/
def Pass.Sound (pass : Pass) (l : Ledger) : Prop :=
  ∀ s ∈ pass.servers, s.service ∈ l.services ∧ l.switch? s.service.networkId = some s.switchId

/-- A pass finds every server that there is behind the switch of its network. -/
def Pass.Complete (pass : Pass) (l : Ledger) : Prop :=
  ∀ x ∈ l.services, ∀ switchId, l.switch? x.networkId = some switchId →
    Table.find? SwitchServer.switchId switchId pass.servers = some ⟨switchId, x⟩

/-- What a pass has found is there still when more has been built. -/
theorem Pass.Sound.path {pass : Pass} (sound : pass.Sound l) {acts : List Act} {l' : Ledger}
    (path : Path l acts l') (builds : ∀ a ∈ acts, a.Builds) : pass.Sound l' := by
  intro s hs
  rw [path.switch?_eq]
  exact ⟨path.mem_services builds (sound s hs).1, (sound s hs).2⟩

/-- A pass may take note of a server that is there, behind the switch of its network. -/
theorem Pass.Sound.withServer {pass : Pass} (sound : pass.Sound l) {x : Store.Service}
    (hx : x ∈ l.services) {switchId : String} (here : l.switch? x.networkId = some switchId) :
    (pass.withServer switchId x).Sound l := by
  intro s hs
  rcases Table.eq_or_mem_of_mem_put hs with rfl | old
  · exact ⟨hx, here⟩
  · exact sound s old

/-- With the server of a network every other one is still found: it is behind another switch. -/
theorem Pass.Complete.withServer {pass : Pass} {l' : Ledger} (complete : pass.Complete l)
    (linked : l'.Linked) (switches : l'.switch? = l.switch?)
    (injective : ∀ m n switchId, l.switch? m = some switchId → l.switch? n = some switchId → m = n)
    {x : Store.Service} (hx : x ∈ l'.services)
    (others : ∀ y ∈ l'.services, y.networkId ≠ x.networkId → y ∈ l.services) {switchId : String}
    (here : l.switch? x.networkId = some switchId) :
    (pass.withServer switchId x).Complete l' := by
  intro y hy s behind
  rw [switches] at behind
  by_cases same : y.networkId = x.networkId
  · cases linked.services_keyed.eq_of_key hy hx same
    cases here.symm.trans behind
    exact Table.find?_put_self SwitchServer.switchId ⟨switchId, x⟩ _
  · have other : switchId ≠ s := fun eq => same (injective _ _ s behind (eq ▸ here))
    have found := complete y (others y hy same) s behind
    rw [← found]
    exact Table.find?_put_of_ne SwitchServer.switchId (a := ⟨switchId, x⟩) other _

/-- No server is wanted in a subnet that is not served, or for a network without a switch. -/
theorem wantedServer_eq_none {settings : Settings} {p : Port} {subnetId : String}
    (covered : ∀ n ∈ c.networks, ∃ switchId, l.switch? n.id = some switchId)
    (nowhere : (if servedIn c subnetId then l.switch? p.networkId else none) = none) :
    wantedServer c settings p subnetId = none := by
  rw [wantedServer]
  rw [servedIn] at nowhere
  cases found : Table.find? Subnet.id subnetId c.subnets with
  | none => rfl
  | some s =>
      rw [found, Option.any_some] at nowhere
      dsimp only
      by_cases serves : s.servesDhcp = true
      case neg => exact if_neg serves
      rw [if_pos serves] at nowhere ⊢
      cases network : Table.find? Network.id p.networkId c.networks with
      | none => rfl
      | some n =>
          obtain ⟨hn, id⟩ := Table.mem_of_find? network
          obtain ⟨switchId, here⟩ := covered n hn
          rw [id, nowhere] at here
          cases here

/-- Nor is one wanted for a network that has one. -/
theorem serverFor_nowhere {settings : Settings} {p : Port} {f : String × IPv4}
    {rest : List (String × IPv4)}
    (covered : ∀ n ∈ c.networks, ∃ switchId, l.switch? n.id = some switchId)
    (first : p.ipv4s = f :: rest)
    (nowhere : (if servedIn c f.1 then l.switch? p.networkId else none) = none) :
    serverFor c settings (l.services.map (·.networkId)) p = none := by
  by_cases taken : ∃ x ∈ l.services, x.networkId = p.networkId
  · obtain ⟨x, hx, same⟩ := taken
    exact serverFor_taken _ _ hx same
  · have new : ∀ x ∈ l.services, x.networkId ≠ p.networkId := fun x hx same =>
      taken ⟨x, hx, same⟩
    rw [serverFor_free _ _ new first, wantedServer_eq_none covered nowhere]
    rfl

/-- What a DHCP port comes to: at most a server is made, and the pass finds no other server than the
network's. -/
def Visited (w : World) (l : Ledger) (settings : Settings) (p : Port) (pass : Pass)
    (r : Except Error Pass) (acts : List Act) (l' : Ledger) : Prop :=
  (∀ a ∈ acts, ∃ s, a.served? = some s) ∧ match r with
    | .ok pass' => pass'.groups = pass.groups ∧ pass'.Knows w.catalog ∧
      (pass.Sound l → pass'.Sound l') ∧
      (∀ s ∈ pass'.servers, s ∈ pass.servers ∨ s.service.networkId = p.networkId) ∧
      (Smooth w l → acts.filterMap Act.served?
          = (serverFor w.catalog settings (l.services.map (·.networkId)) p).toList ∧
        (pass.Complete l → pass'.Complete l'))
    | .error _ => ¬ Smooth w l

/-- Whoever does nothing must show that no server was wanted. -/
theorem Visited.nothing {settings : Settings} {p : Port} {pass pass' : Pass}
    (groups : pass'.groups = pass.groups) (servers : pass'.servers = pass.servers)
    (knows : pass'.Knows w.catalog) (unwanted : Smooth w l →
      serverFor w.catalog settings (l.services.map (·.networkId)) p = none) :
    Visited w l settings p pass (.ok pass') [] l := by
  refine ⟨fun a ha => (nomatch ha), groups, knows, fun sound => ?_, fun s hs => ?_,
    fun smooth => ⟨?_, ?_⟩⟩
  · rw [Pass.Sound, servers]
    exact sound
  · exact Or.inl (servers ▸ hs)
  · rw [unwanted smooth]
    rfl
  · rw [Pass.Complete, Pass.Complete, servers]
    exact id

/-- The network has a server now, whether or not it was made for this port. -/
theorem Visited.withServer {settings : Settings} {p : Port} {pass : Pass}
    (knows : pass.Knows w.catalog) {switchId : String}
    (here : l.switch? p.networkId = some switchId) (report : ResyncReport) {acts : List Act}
    {l' : Ledger} (linked : l'.Linked) (path : Path l acts l')
    (all : ∀ a ∈ acts, ∃ s, a.served? = some s)
    (served : Smooth w l → acts.filterMap Act.served?
      = (serverFor w.catalog settings (l.services.map (·.networkId)) p).toList)
    {x : Store.Service} (hx : x ∈ l'.services) (network : x.networkId = p.networkId)
    (others : ∀ y ∈ l'.services, y.networkId ≠ p.networkId → y ∈ l.services) :
    Visited w l settings p pass (.ok ({ pass with report }.withServer switchId x)) acts l' := by
  refine ⟨all, rfl, knows, fun sound => ?_, fun s hs => ?_,
    fun smooth => ⟨served smooth, fun complete => ?_⟩⟩
  · refine Pass.Sound.withServer ?_ hx ?_
    · exact Pass.Sound.path (show ({ pass with report } : Pass).Sound l from sound) path
        (builds_of_served all)
    · rw [path.switch?_eq, network]
      exact here
  · rcases Table.eq_or_mem_of_mem_put hs with rfl | old
    · exact Or.inr network
    · exact Or.inl old
  · exact Pass.Complete.withServer (show ({ pass with report } : Pass).Complete l from complete)
      linked path.switch?_eq smooth.injective hx
      (fun y hy other => others y hy (network ▸ other)) (network ▸ here)

/-- The network's server was there or has been made. -/
theorem Ensured.visited {settings : Settings} {s : Subnet} {p : Port} {f : String × IPv4}
    {rest : List (String × IPv4)} (first : p.ipv4s = f :: rest)
    (wanted : wantedServer w.catalog settings p f.1
      = (Table.find? Network.id p.networkId w.catalog.networks).bind
          fun n => (serverConfig n s p settings).toOption)
    {pass : Pass} (knows : pass.Knows w.catalog) {switchId : String}
    (here : l.switch? p.networkId = some switchId) (report : ResyncReport) {acts : List Act}
    {l' : Ledger} (linked : l'.Linked) (path : Path l acts l')
    {r : Except Error (Store.Service × Bool)} (ensured : Ensured w l settings s p r acts l') :
    Visited w l settings p pass
      (.ok (match r with
        | .ok (x, _) => { pass with report }.withServer switchId x
        | .error _ => { pass with report })) acts l' := by
  -- either nothing was done, or a server was made and only attaching it may have failed
  rcases ensured with ⟨rfl, ensured⟩ | ⟨config, time, new, made, rfl, ensured⟩
  · cases path
    rcases r with e | ⟨x, fresh⟩
    · obtain ⟨new, unwanted⟩ := ensured
      refine .nothing rfl rfl knows fun smooth => ?_
      rw [serverFor_free _ _ new first, wanted, unwanted smooth.calm]
      rfl
    · obtain ⟨hx, network⟩ := ensured
      refine .withServer knows here report linked (.nil l) (fun a ha => (nomatch ha)) ?_ hx network
        fun y hy _ => hy
      intro _
      rw [serverFor_taken _ _ hx network]
      rfl
  · have served : [Act.serve p.networkId p.id config time].filterMap Act.served?
        = (serverFor w.catalog settings (l.services.map (·.networkId)) p).toList := by
      rw [serverFor_free _ _ new first, wanted, made]
      rfl
    have all : ∀ a ∈ [Act.serve p.networkId p.id config time], ∃ s, a.served? = some s := by
      intro a ha
      rw [List.mem_singleton.mp ha]
      exact ⟨_, rfl⟩
    rcases r with e | ⟨x, fresh⟩
    · refine ⟨all, rfl, knows, fun sound => ?_, fun s => Or.inl, fun smooth => ?_⟩
      · exact Pass.Sound.path (show ({ pass with report } : Pass).Sound l from sound) path
          (builds_of_served all)
      · exact absurd (ensured smooth.calm) smooth.ports
    · obtain ⟨hx, network⟩ := ensured
      refine .withServer knows here report linked path all (fun _ => served) hx network ?_
      intro y hy other
      cases path with
      | cons fits done =>
          cases done
          rcases List.mem_append.mp hy with old | added
          · exact old
          · rw [List.mem_singleton.mp added] at other
            exact absurd rfl other

/-- Seeking a server finds no other than the network's. -/
theorem Sought.visited {settings : Settings} {p : Port} (role : p.role = .dhcp) {pass : Pass}
    {r : Except Error Pass} {acts : List Act} {l' : Ledger} (linked : l'.Linked)
    (path : Path l acts l') (sought : Sought w l settings p pass r acts l') :
    Visited w l settings p pass r acts l' := by
  rcases r with e | pass'
  · obtain ⟨rfl, gone⟩ := sought
    exact ⟨fun a ha => (nomatch ha), fun smooth => smooth.networks (gone smooth.calm.reachable)⟩
  obtain ⟨subnets, knows, ⟨rfl, none, rfl⟩ | ⟨f, rest, s, switchId, result, first, there, serves,
    at', ensured, -, rfl⟩⟩ := sought
  · cases path
    refine .nothing rfl rfl knows fun smooth => ?_
    cases first : p.ipv4s with
    | nil => rw [serverFor, first, ite_self]
    | cons f rest =>
        rw [soughtAt?, role, first] at none
        exact serverFor_nowhere smooth.covered first none
  · have wanted : wantedServer w.catalog settings p f.1
        = (Table.find? Network.id p.networkId w.catalog.networks).bind
            fun n => (serverConfig n s p settings).toOption := by
      rw [wantedServer, there]
      exact if_pos serves
    have visited := ensured.visited first wanted knows (of_soughtAt? at').2.1
      (pass.report.withServer result) linked path
    cases result <;> exact visited

/-! ## What came of seeking servers -/

/-- A DHCP port on account of which a server was sought, and what came of it. -/
structure Asked where
  port : Port
  /-- The switch behind the network of the port. -/
  switchId : String
  result : Except Error (Store.Service × Bool)

/-- The ports on account of which servers are sought, each with the switch behind its network. -/
def seekers (c : Catalog) (switch? : String → Option String) (ports : List Port) :
    List (Port × String) :=
  ports.filterMap fun p => (soughtAt? c switch? p).map (p, ·)

namespace Asked

/-- These servers with the one that was sought, if it was had. -/
def among (servers : List SwitchServer) (a : Asked) : List SwitchServer :=
  match a.result with
  | .ok (x, _) => Table.put SwitchServer.switchId ⟨a.switchId, x⟩ servers
  | .error _ => servers

/-- What is known of the answer, from the services before all ports and those after them: a server
that was had stands for the port's network, and if it is new it was made for the port; without one
the network had none. -/
def Stands (services services' : List Store.Service) (a : Asked) : Prop :=
  match a.result with
  | .ok (x, fresh) => x ∈ services' ∧ x.networkId = a.port.networkId ∧
    (fresh = true → x.portId = a.port.id ∧ ∀ y ∈ services, y.networkId ≠ a.port.networkId)
  | .error _ => ∀ y ∈ services, y.networkId ≠ a.port.networkId

/-- What is known of an answer stands when more services are made later. -/
theorem Stands.later {services services' services'' : List Store.Service} {a : Asked}
    (h : a.Stands services services') (kept : ∀ x ∈ services', x ∈ services'') :
    a.Stands services services'' := by
  unfold Stands at *
  split at h
  · exact ⟨kept _ h.1, h.2⟩
  · exact h

/-- What is known of an answer stands from fewer services before. -/
theorem Stands.sooner {services services' services'' : List Store.Service} {a : Asked}
    (h : a.Stands services' services'') (kept : ∀ x ∈ services, x ∈ services') :
    a.Stands services services'' := by
  unfold Stands at *
  split at h
  · exact ⟨h.1, h.2.1, fun fresh => ⟨(h.2.2 fresh).1, fun y hy => (h.2.2 fresh).2 y (kept y hy)⟩⟩
  · exact fun y hy => h y (kept y hy)

end Asked

section Ensured

variable {settings : Settings} {s : Subnet} {p : Port} {acts : List Act} {l' : Ledger}
  {result : Except Error (Store.Service × Bool)}

/-- Seeking a server builds, if it does anything. -/
theorem Ensured.builds (ensured : Ensured w l settings s p result acts l') :
    ∀ a ∈ acts, a.Builds := by
  rcases ensured with ⟨rfl, -⟩ | ⟨config, time, -, -, rfl, -⟩
  · exact fun a ha => nomatch ha
  · intro a ha
    rw [List.mem_singleton.mp ha]
    trivial

/-- What a port has asked for stands between the services before it and those after it. -/
theorem Ensured.stands (path : Path l acts l') (told : Told result acts)
    (ensured : Ensured w l settings s p result acts l') (switchId : String) :
    Asked.Stands l.services l'.services ⟨p, switchId, result⟩ := by
  rcases result with e | ⟨x, fresh⟩
  · rcases ensured with ⟨-, new, -⟩ | ⟨-, -, new, -⟩ <;> exact new
  · rcases ensured with ⟨rfl, hx, network⟩ | ⟨config, time, new, -, rfl, hx, network⟩
    · cases path
      exact ⟨hx, network, fun made => absurd rfl ((told x fresh rfl).mp made)⟩
    · refine ⟨hx, network, fun _ => ⟨?_, new⟩⟩
      cases path with
      | cons fits rest =>
          cases rest
          rcases List.mem_append.mp hx with old | made
          · exact absurd network (new x old)
          · rw [List.mem_singleton.mp made]

/-- A server that is made is made for a network that is there. -/
theorem Ensured.known (path : Path l acts l')
    (ensured : Ensured w l settings s p result acts l') :
    ∀ x ∈ l'.services, x ∈ l.services ∨ ∃ n ∈ w.catalog.networks, n.id = x.networkId := by
  intro x hx
  rcases ensured with ⟨rfl, -⟩ | ⟨config, time, -, made, rfl, -⟩
  · cases path
    exact Or.inl hx
  · cases path with
    | cons fits rest =>
        cases rest
        rcases List.mem_append.mp hx with old | new
        · exact Or.inl old
        · obtain ⟨n, found, -⟩ := Option.bind_eq_some_iff.mp made
          obtain ⟨hn, id⟩ := Table.mem_of_find? found
          exact Or.inr ⟨n, hn, by rw [List.mem_singleton.mp new, id]⟩

/-- If nothing fails, only a network that is not there goes without a server. -/
theorem Ensured.missing (calm : w.Calm) (attachable : l.ports ≠ none)
    (described : ∀ n, ∃ config, serverConfig n s p settings = .ok config)
    (ensured : Ensured w l settings s p result acts l') {e : Error} (failed : result = .error e) :
    ∀ n ∈ w.catalog.networks, n.id ≠ p.networkId := by
  cases failed
  rcases ensured with ⟨-, -, unwanted⟩ | ⟨-, -, -, -, -, gone⟩
  · cases found : Table.find? Network.id p.networkId w.catalog.networks with
    | none => exact Table.find?_eq_none_iff.mp found
    | some n =>
        obtain ⟨config, made⟩ := described n
        have none := unwanted calm
        rw [found, Option.bind_some, made] at none
        exact nomatch none
  · exact absurd (gone calm) attachable

/-- If nothing fails, nothing is done but for a new server. -/
theorem Ensured.idle (calm : w.Calm) (attachable : l.ports ≠ none) (told : Told result acts)
    (ensured : Ensured w l settings s p result acts l') (old : ∀ x, result ≠ .ok (x, true)) :
    acts = [] := by
  rcases ensured with ⟨none, -⟩ | ⟨config, time, -, -, rfl, ended⟩
  · exact none
  · rcases result with e | ⟨x, fresh⟩
    · exact absurd (ended calm) attachable
    · have made := (told x fresh rfl).mpr (List.cons_ne_nil _ _)
      exact absurd (by rw [made]) (old x)

end Ensured

/-- The description of a server can be made if the settings name a profile and the port has its
first address in the subnet. -/
theorem exists_serverConfig {settings : Settings} (profile : ∃ id, settings.dhcpProfile = .ok id)
    {p : Port} {f : String × IPv4} {rest : List (String × IPv4)} (first : p.ipv4s = f :: rest)
    {s : Subnet} (same : s.id = f.1) (serves : s.servesDhcp = true) (n : Network) :
    ∃ config, serverConfig n s p settings = .ok config := by
  obtain ⟨id, profile⟩ := profile
  have described := serverConfig_of_first settings n first same serves
  rwa [profile] at described

/-- What a pass has counted and remembers of servers, and what it has made, after these ports. -/
structure Tallied (w : World) (l : Ledger) (settings : Settings) (ports : List Port) (pass : Pass)
    (acts : List Act) (l' : Ledger) (asked : List Asked) : Prop where
  all : asked.map (fun a => (a.port, a.switchId)) = seekers w.catalog l.switch? ports
  report : pass.report = asked.foldl (fun r a => r.withServer a.result) Pass.start.report
  servers : pass.servers = asked.foldl Asked.among []
  stands : ∀ a ∈ asked, a.Stands l.services l'.services
  known : ∀ x ∈ l'.services, x ∈ l.services ∨ ∃ n ∈ w.catalog.networks, n.id = x.networkId
  /-- If nothing fails, only a network that is not there goes without a server. -/
  missing : w.Calm → l.ports ≠ none → (∃ id, settings.dhcpProfile = .ok id) →
    ∀ a ∈ asked, ∀ e, a.result = .error e → ∀ n ∈ w.catalog.networks, n.id ≠ a.port.networkId
  /-- If nothing fails, nothing is done but for new servers. -/
  idle : w.Calm → l.ports ≠ none → (∀ a ∈ asked, ∀ x, a.result ≠ .ok (x, true)) → acts = []

namespace Tallied

variable {settings : Settings} {ports : List Port} {pass pass' : Pass} {acts more : List Act}
  {l' l'' : Ledger} {p : Port} {asked : List Asked}

/-- At the start nothing has been counted. -/
theorem start (w : World) (l : Ledger) (settings : Settings) :
    Tallied w l settings [] .start [] l [] where
  all := rfl
  report := rfl
  servers := rfl
  stands _ ha := nomatch ha
  known _ := Or.inl
  missing _ _ _ _ ha := nomatch ha
  idle _ _ _ := rfl

/-- A port on account of which no server is sought. -/
theorem skip (tallied : Tallied w l settings ports pass acts l' asked)
    (unsought : soughtAt? w.catalog l.switch? p = none) (report : pass'.report = pass.report)
    (servers : pass'.servers = pass.servers) :
    Tallied w l settings (ports ++ [p]) pass' (acts ++ []) l' asked where
  all := by
    rw [seekers, List.filterMap_append, List.filterMap_cons, unsought]
    exact tallied.all.trans (List.append_nil _).symm
  report := report.trans tallied.report
  servers := servers.trans tallied.servers
  stands := tallied.stands
  known := tallied.known
  missing := tallied.missing
  idle calm attachable none := by
    rw [List.append_nil]
    exact tallied.idle calm attachable none

/-- A port on account of which a server is sought. -/
theorem ask (tallied : Tallied w l settings ports pass acts l' asked) (path : Path l acts l')
    (serves : ∀ a ∈ acts, a.Builds) (path' : Path l' more l'') {f : String × IPv4}
    {rest : List (String × IPv4)} (first : p.ipv4s = f :: rest) {s : Subnet} (same : s.id = f.1)
    (served : s.servesDhcp = true) {switchId : String}
    (at' : soughtAt? w.catalog l.switch? p = some switchId)
    {result : Except Error (Store.Service × Bool)}
    (ensured : Ensured w l' settings s p result more l'') (told : Told result more)
    (subnets : List KnownSubnet) :
    Tallied w l settings (ports ++ [p]) (Pass.noted { pass with subnets } switchId result)
      (acts ++ more) l'' (asked ++ [⟨p, switchId, result⟩]) := by
  -- all acts so far build, so nothing that was there has gone
  have earlier : ∀ y ∈ l.services, y ∈ l'.services := fun y => path.mem_services serves
  have attachable : l.ports ≠ none → l'.ports ≠ none := fun h => path.mappings_eq.2 ▸ h
  have described : (∃ id, settings.dhcpProfile = .ok id) →
      ∀ n, ∃ config, serverConfig n s p settings = .ok config :=
    fun profile n => exists_serverConfig profile first same served n
  exact {
    all := by
      rw [List.map_append, seekers, List.filterMap_append, List.filterMap_cons, at']
      exact congrArg (· ++ [(p, switchId)]) tallied.all
    report := by
      rw [List.foldl_append, ← tallied.report]
      cases result <;> rfl
    servers := by
      rw [List.foldl_append, ← tallied.servers]
      cases result <;> rfl
    stands := by
      intro a ha
      rcases List.mem_append.mp ha with old | new
      · exact (tallied.stands a old).later fun x => path'.mem_services ensured.builds
      · rw [List.mem_singleton.mp new]
        exact (ensured.stands path' told switchId).sooner earlier
    known := by
      intro x hx
      exact (ensured.known path' x hx).elim (tallied.known x) Or.inr
    missing := by
      intro calm ports profile a ha
      rcases List.mem_append.mp ha with old | new
      · exact tallied.missing calm ports profile a old
      · rw [List.mem_singleton.mp new]
        intro e failed
        exact ensured.missing calm (attachable ports) (described profile) failed
    idle := by
      intro calm ports none
      rw [tallied.idle calm ports fun a ha => none a (List.mem_append_left _ ha),
        ensured.idle calm (attachable ports) told
          (none ⟨p, switchId, result⟩ (List.mem_append_right _ (List.mem_singleton_self _)))]
      rfl }

end Tallied

/-! ## All ports -/

/-- The addresses of these ports behind a switch. -/
def collected (c : Catalog) (switch? : String → Option String) (switchId : String)
    (ports : List Port) : List (String × Desired) :=
  (ports.filter fun p => p.isCompute && decide (switch? p.networkId = some switchId)).flatMap
    (portEntries c)

/-- The addresses behind a switch are collected port by port. -/
theorem collected_concat (c : Catalog) (switch? : String → Option String) (switchId : String)
    (ports : List Port) (p : Port) :
    collected c switch? switchId (ports ++ [p]) = collected c switch? switchId ports
      ++ if p.isCompute && decide (switch? p.networkId = some switchId) then portEntries c p
        else [] := by
  rw [collected, List.filter_append, List.flatMap_append, List.filter_cons]
  split
  · exact congrArg _ (List.append_nil _)
  · rfl

/-- How far a pass has come with these ports. -/
structure Toured (w : World) (l : Ledger) (settings : Settings) (ports : List Port) (pass : Pass)
    (acts : List Act) (l' : Ledger) : Prop where
  serves : ∀ a ∈ acts, ∃ s, a.served? = some s
  knows : pass.Knows w.catalog
  sound : pass.Sound l'
  origin : ∀ s ∈ pass.servers, ∃ p ∈ ports, p.role = .dhcp ∧ s.service.networkId = p.networkId
  keyed : Table.Keyed SwitchGroup.switchId pass.groups
  entries : ∀ switchId, pass.entriesAt switchId = collected w.catalog l.switch? switchId ports
  servers : Smooth w l → acts.filterMap Act.served? = serversFor w.catalog settings
    (l.services.map (·.networkId)) (ports.filter fun p => p.role = .dhcp)
  complete : Smooth w l → Pass.start.Complete l → pass.Complete l'

namespace Toured

variable {settings : Settings} {ports : List Port} {pass pass' : Pass} {acts : List Act}
  {l' : Ledger} {p : Port}

/-- At the start a pass has come nowhere. -/
theorem start (w : World) (l : Ledger) (settings : Settings) :
    Toured w l settings [] .start [] l where
  serves _ ha := nomatch ha
  knows _ hk := nomatch hk
  sound _ hs := nomatch hs
  origin _ hs := nomatch hs
  keyed := Table.keyed_nil _
  entries _ := rfl
  servers _ := rfl
  complete _ := id

/-- The servers for one DHCP port more are those for the ports before it and perhaps its own. -/
theorem serversFor_concat (c : Catalog) (taken : List String) (role : p.role = .dhcp) :
    serversFor c settings taken ((ports ++ [p]).filter fun p => p.role = .dhcp)
      = serversFor c settings taken (ports.filter fun p => p.role = .dhcp)
        ++ (serverFor c settings (taken ++ (serversFor c settings taken
            (ports.filter fun p => p.role = .dhcp)).map (·.1)) p).toList := by
  have here : [p].filter (fun p => decide (p.role = .dhcp)) = [p] :=
    List.filter_eq_self.mpr fun q hq => List.mem_singleton.mp hq ▸ decide_eq_true role
  rw [List.filter_append, here, serversFor_append]
  exact congrArg _ (List.append_nil _)

/-- A pass that has come so far goes one DHCP port further. -/
theorem dhcp (toured : Toured w l settings ports pass acts l') (path : Path l acts l')
    (role : p.role = .dhcp) {w' : World} (follows : w.Follows w') {more : List Act} {l'' : Ledger}
    (visited : Visited w' l' settings p pass (.ok pass') more l'') :
    Toured w l settings (ports ++ [p]) pass' (acts ++ more) l'' := by
  obtain ⟨serves, groups, knows, sound, found, exactly⟩ := visited
  have builds := builds_of_served toured.serves
  refine {
    serves := ?_
    knows := ?_
    sound := sound toured.sound
    origin := ?_
    keyed := groups ▸ toured.keyed
    entries := ?_
    servers := ?_
    complete := ?_ }
  · exact fun a ha => (List.mem_append.mp ha).elim (toured.serves a) (serves a)
  · rw [← follows.catalog]
    exact knows
  · intro s hs
    rcases found s hs with old | new
    · obtain ⟨q, hq, here⟩ := toured.origin s old
      exact ⟨q, List.mem_append_left _ hq, here⟩
    · exact ⟨p, List.mem_append_right _ (List.mem_singleton_self p), role, new⟩
  -- a DHCP port has no addresses to bind
  · intro switchId
    have passed : p.isCompute = false := by rw [Port.isCompute, role]; rfl
    rw [Pass.entriesAt, groups, collected_concat, passed, Bool.false_and,
      if_neg Bool.false_ne_true, List.append_nil]
    exact toured.entries switchId
  · intro smooth
    have here := (exactly (smooth.follows follows path)).1
    rw [path.networks_eq builds, toured.servers smooth, follows.catalog] at here
    rw [List.filterMap_append, toured.servers smooth, here, serversFor_concat _ _ role]
  · intro smooth complete
    exact (exactly (smooth.follows follows path)).2 (toured.complete smooth complete)

/-- A pass that has come so far goes one instance port further. -/
theorem compute (toured : Toured w l settings ports pass acts l') (path : Path l acts l')
    (role : p.role = .compute)
    (gathers : pass.Gathers w.catalog (l'.switch? p.networkId) (portEntries w.catalog p) pass') :
    Toured w l settings (ports ++ [p]) pass' (acts ++ []) l' := by
  rw [List.append_nil]
  refine { toured with
    knows := gathers.knows
    sound := ?_
    origin := ?_
    keyed := gathers.keyed toured.keyed
    entries := ?_
    servers := ?_
    complete := ?_ }
  · rw [Pass.Sound, gathers.servers]
    exact toured.sound
  · intro s hs
    rw [gathers.servers] at hs
    obtain ⟨q, hq, here⟩ := toured.origin s hs
    exact ⟨q, List.mem_append_left _ hq, here⟩
  · intro switchId
    have passed : p.isCompute = true := by rw [Port.isCompute, role]; rfl
    rw [gathers.entries, toured.entries, collected_concat, passed, path.switch?_eq, Bool.true_and]
    simp only [decide_eq_true_eq]
  · rw [List.filter_append, List.filter_cons_of_neg (by rw [role]; decide), List.filter_nil,
      List.append_nil]
    exact toured.servers
  · intro smooth start x hx switchId here
    rw [gathers.servers]
    exact toured.complete smooth start x hx switchId here

/-- A pass that has come so far goes past a port of another kind. -/
theorem other (toured : Toured w l settings ports pass acts l') (role : p.role = .other) :
    Toured w l settings (ports ++ [p]) pass (acts ++ []) l' := by
  rw [List.append_nil]
  refine { toured with
    origin := ?_
    entries := ?_
    servers := ?_ }
  · intro s hs
    obtain ⟨q, hq, here⟩ := toured.origin s hs
    exact ⟨q, List.mem_append_left _ hq, here⟩
  · intro switchId
    have passed : p.isCompute = false := by rw [Port.isCompute, role]; rfl
    rw [collected_concat, passed, Bool.false_and, if_neg Bool.false_ne_true, List.append_nil]
    exact toured.entries switchId
  · rw [List.filter_append, List.filter_cons_of_neg (by rw [role]; decide), List.filter_nil,
      List.append_nil]
    exact toured.servers

end Toured

/-- A pass has come as far, seen from earlier surroundings. -/
theorem Toured.follows {settings : Settings} {ports : List Port} {pass : Pass} {acts : List Act}
    {w' : World} {l' : Ledger} (f : w.Follows w') (h : Toured w' l settings ports pass acts l') :
    Toured w l settings ports pass acts l' where
  serves := h.serves
  knows := f.catalog ▸ h.knows
  sound := h.sound
  origin := h.origin
  keyed := h.keyed
  entries := f.catalog ▸ h.entries
  servers smooth := f.catalog ▸ h.servers (smooth.follows f (.nil l))
  complete smooth := h.complete (smooth.follows f (.nil l))

/-- A pass has counted the same, seen from earlier surroundings. -/
theorem Tallied.follows {settings : Settings} {ports : List Port} {pass : Pass} {acts : List Act}
    {w' : World} {l' : Ledger} {asked : List Asked} (f : w.Follows w')
    (h : Tallied w' l settings ports pass acts l' asked) :
    Tallied w l settings ports pass acts l' asked where
  all := f.catalog ▸ h.all
  report := h.report
  servers := h.servers
  stands := h.stands
  known := f.catalog ▸ h.known
  missing calm := f.catalog ▸ h.missing (calm.follows f)
  idle calm := h.idle (calm.follows f)

/-- A pass goes through all ports. -/
theorem goes_passPorts (shows : w.Shows l) (linked : l.Linked) (settings : Settings)
    (ports : List Port) :
    (ports.foldlM (passPort settings) .start).Goes w l fun r acts l' =>
      match r with
      | .ok pass => Toured w l settings ports pass acts l' ∧
        ∃ asked, Tallied w l settings ports pass acts l' asked
      | .error _ => (∀ a ∈ acts, ∃ s, a.served? = some s) ∧
        (w.Reachable → l.networks = none) := by
  refine Goes.foldlM shows linked
    (fun done pass acts l' => Toured w l settings done pass acts l' ∧
      ∃ asked, Tallied w l settings done pass acts l' asked)
    (fun acts _ => (∀ a ∈ acts, ∃ s, a.served? = some s) ∧ (w.Reachable → l.networks = none))
    ⟨Toured.start w l settings, [], Tallied.start w l settings⟩ ?_ (fun _ _ _ => id)
    fun _ _ _ => id
  rintro done p pass acts l' w' _ follows shows' linked' path ⟨toured, asked, tallied⟩
  have knows : pass.Knows w'.catalog := by
    rw [follows.catalog]
    exact toured.knows
  -- a pass that stops at this port has made servers only, and stops for want of the table
  have stopped : ∀ {more : List Act}, more = [] → (w'.Reachable → l'.networks = none) →
      (∀ a ∈ acts ++ more, ∃ s, a.served? = some s) ∧ (w.Reachable → l.networks = none) := by
    rintro more rfl gone
    refine ⟨fun a ha => ?_, fun reachable => ?_⟩
    · rw [List.append_nil] at ha
      exact toured.serves a ha
    · rw [← path.mappings_eq.1]
      exact gone (reachable.follows follows)
  -- only a DHCP port asks for a server
  have unsought : p.role ≠ .dhcp → soughtAt? w.catalog l.switch? p = none := by
    intro other
    rw [soughtAt?]
    split
    · next dhcp _ => exact absurd dhcp other
    · rfl
  rw [passPort]
  cases role : p.role with
  | dhcp =>
      refine Goes.mono (goes_passDhcpPort shows' linked' settings knows role) ?_
      rintro (e | pass') more l'' path' sought
      · exact stopped sought.1 sought.2
      · refine ⟨toured.dhcp path role follows (sought.visited role (path'.linked linked') path'),
          ?_⟩
        -- either the port asks for no server after all, or one is found or made for it
        obtain ⟨subnets, -, ⟨rfl, none, rfl⟩ | ⟨f, rest, s, switchId, result, first, there, serves,
          at', ensured, told, rfl⟩⟩ := sought
        · cases path'
          rw [follows.catalog, path.switch?_eq] at none
          exact ⟨asked, tallied.skip none rfl rfl⟩
        · rw [follows.catalog, path.switch?_eq] at at'
          exact ⟨_, tallied.ask path (builds_of_served toured.serves) path' first
            (Table.mem_of_find? there).2 serves at' (ensured.follows follows) told subnets⟩
  | compute =>
      refine Goes.of_quiet (quiet_passComputePort shows' knows p) ?_
      rintro (e | pass') gathers
      · exact stopped rfl gathers
      · rw [follows.catalog] at gathers
        exact ⟨toured.compute path role gathers, asked, tallied.skip
          (unsought (by rw [role]; decide)) gathers.report gathers.servers⟩
  | other =>
      exact Goes.pure shows' ⟨toured.other role, asked, tallied.skip
        (unsought (by rw [role]; decide)) rfl rfl⟩

end Overlay.Dhcp
