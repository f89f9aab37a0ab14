import Overlay.Proofs.Dhcp.Descriptions
import Overlay.Proofs.Dhcp.Views

/-!
# What events of a port do to services and servers

Rows and bindings aside, an event of a port does at most one deed when nothing fails: it makes the
server of its network, gives it another address, or takes it down. `Ledger.Turned` says what services
and servers are after such a deed, whatever has become of rows and bindings; `turned_portCreated`,
`turned_portUpdated` and `turned_portDeleted` say which deed it is.

`Ledger.Brings` is this for one service: it was there before and its server has followed the address
that the event brings, or it was made for the port of the event, at the port's address.

Main statements: `brings_portCreated`, `brings_portUpdated`, `brings_portDeleted`.
-/

namespace Overlay.Controller

/-- The IPv4 address at which a server is reached. -/
def HeldServer.address? (v : HeldServer) : Option IPv4 :=
  match v.config.serverIp with
  | .v4 block => some block.address
  | .v6 _ => none

/-- A server with an IPv4 address has the new address after it was readdressed. -/
theorem HeldServer.address?_readdressed {v : HeldServer} {ip' : IPv4} (h : v.address? = some ip')
    (ip : IPv4) : (State.readdressed (.v4 ip) v).address? = some ip := by
  rw [address?] at h
  rw [address?, State.readdressed]
  cases here : v.config.serverIp with
  | v6 block =>
      rw [here] at h
      exact nomatch h
  | v4 block =>
      have fits : Cidr.of? (.v4 ip) block.length = some (.v4 ⟨ip, block.length, block.length_le⟩) :=
        congrArg (Option.map Cidr.v4) (dif_pos block.length_le)
      rw [show (Cidr.v4 block).length = block.length from rfl, fits]
      rfl

end Overlay.Controller

namespace Overlay.Dhcp

open Overlay.Handler
open Overlay.Controller (HeldServer)

variable {w : World} {l l' : Ledger}

/-! ## Turns -/

/-- Services and servers after at most one deed. -/
inductive Ledger.Turned (l l' : Ledger) : List Deed → Prop
  | stays (services : l'.services = l.services) (servers : l'.servers = l.servers) : Turned l l' []
  | serves {networkId portId : String} {config : DhcpServerConfig} (time : Instant)
      (new : ∀ x ∈ l.services, x.networkId ≠ networkId)
      (services : l'.services = l.services ++
        [⟨networkId, portId, Controller.State.serverName (l.serversMade + 1), time⟩])
      (servers : l'.servers = l.servers ++
        [⟨Controller.State.serverName (l.serversMade + 1), config⟩]) :
      Turned l l' [.serve networkId portId config]
  | readdresses {serverId : String} {ip : Address} (services : l'.services = l.services)
      (servers : l'.servers =
        Table.modify HeldServer.id serverId (Controller.State.readdressed ip) l.servers) :
      Turned l l' [.readdress serverId ip]
  | retires {x : Store.Service}
      (services : l'.services = Table.remove Store.Service.networkId x.networkId l.services)
      (servers : l'.servers = Table.remove HeldServer.id x.serverId l.servers) :
      Turned l l' [.retire x]

namespace Ledger

/-- Where services and servers are the same, no deed was done. -/
theorem Turned.of_servesAs (same : l.ServesAs l') : l.Turned l' [] :=
  .stays same.services same.servers

/-- Rows and bindings may change before the deed. -/
theorem ServesAs.turned {m : Ledger} {deeds : List Deed} (same : l.ServesAs m)
    (h : m.Turned l' deeds) : l.Turned l' deeds := by
  cases h with
  | stays services servers =>
      exact .stays (services.trans same.services) (servers.trans same.servers)
  | serves time new services servers =>
      rw [same.services] at new services
      rw [same.made] at services servers
      rw [same.servers] at servers
      exact .serves time new services servers
  | readdresses services servers =>
      exact .readdresses (services.trans same.services) (same.servers ▸ servers)
  | retires services servers => exact .retires (same.services ▸ services) (same.servers ▸ servers)

/-- Rows and bindings may change after the deed. -/
theorem Turned.stay {m : Ledger} {deeds : List Deed} (h : l.Turned m deeds)
    (rest : m.Turned l' []) : l.Turned l' deeds := by
  obtain ⟨same, same'⟩ : l'.services = m.services ∧ l'.servers = m.servers := by
    cases rest with
    | stays services servers => exact ⟨services, servers⟩
  cases h with
  | stays services servers => exact .stays (same.trans services) (same'.trans servers)
  | serves time new services servers =>
      exact .serves time new (same.trans services) (same'.trans servers)
  | readdresses services servers =>
      exact .readdresses (same.trans services) (same'.trans servers)
  | retires services servers => exact .retires (same.trans services) (same'.trans servers)

end Ledger

/-- The deed is about a server. -/
def Deed.OnServer : Deed → Prop
  | serve .. | readdress .. | retire .. => True
  | bind .. | move .. | clash .. | release .. => False

/-- There is at most one deed, and it is about a server. -/
def Effect.OnServer (e : Effect) : Prop := e.deeds = [] ∨ ∃ d, d.OnServer ∧ e.deeds = [d]

/-- Taking down a server is a deed about it, or none. -/
theorem onServer_tornDown (service : Option Store.Service) (owner : Option String) :
    (tornDown service owner).OnServer := by
  cases service with
  | none => exact Or.inl rfl
  | some x =>
      rw [tornDown]
      split
      · exact Or.inl rfl
      · exact Or.inr ⟨.retire x, trivial, rfl⟩

/-- Making a server is a deed about it, or none. -/
theorem onServer_serverMade (settings : Settings) (c : Catalog) (p : Port)
    (service : Option Store.Service) (ports : Option (List Store.PortMapping)) :
    (serverMade settings c p service ports).OnServer := by
  rw [serverMade.eq_def]
  split
  · exact Or.inl rfl
  · exact Or.inl rfl
  · exact Or.inl rfl
  · split
    · exact Or.inl rfl
    · exact Or.inl rfl
    · exact Or.inr ⟨.serve _ _ _, trivial, rfl⟩

/-- Moving a server is a deed about it, or none. -/
theorem onServer_serverMoved (old new : Port) (service : Option Store.Service) :
    (serverMoved old new service).OnServer := by
  rw [serverMoved.eq_def]
  split
  · exact Or.inl rfl
  · exact Or.inr ⟨.readdress _ _, trivial, rfl⟩
  · exact Or.inl rfl

/-- A path on which nothing but this is done. -/
theorem turned_of_path {acts : List Act} (path : Path l acts l') {e : Effect}
    (deeds : acts.map Act.deed? = e.deeds.map some) (onServer : e.OnServer) :
    l.Turned l' e.deeds := by
  rcases onServer with none | ⟨d, onServer, one⟩
  · rw [none] at deeds ⊢
    cases List.map_eq_nil_iff.mp deeds
    cases path
    exact .stays rfl rfl
  rw [one] at deeds ⊢
  obtain ⟨a, rfl, did, rfl⟩ := path.of_deed deeds
  have act := Act.of_deed? did
  cases path with
  | cons fits rest =>
      cases d with
      | serve networkId portId config =>
          obtain ⟨time, rfl⟩ := act
          exact .serves time fits rfl rfl
      | readdress serverId ip =>
          cases act
          exact .readdresses rfl rfl
      | retire x =>
          cases act
          exact .retires rfl rfl
      | bind _ _ _ => exact onServer.elim
      | move _ _ => exact onServer.elim
      | clash _ _ => exact onServer.elim
      | release _ => exact onServer.elim

/-- Two effects in turn succeed only if both do. -/
theorem Effect.ok_of_andThen {first second : Effect} (ok : (first.andThen second).result = .ok ()) :
    first.result = .ok () ∧ second.result = .ok () := by
  rw [andThen] at ok
  cases done : first.result with
  | error e =>
      rw [done] at ok
      cases done.symm.trans ok
  | ok u =>
      rw [done] at ok
      exact ⟨rfl, ok⟩

/-- Deeds on the rows of a port, and then at most one deed on a server. -/
theorem turned_andThen {acts : List Act} (path : Path l acts l') {first second : Effect}
    (deeds : acts.map Act.deed? = (first.andThen second).deeds.map some)
    (done : first.result = .ok ()) {portId : String} {service : Option Store.Service}
    {rows : List Store.Binding} (own : ∀ d ∈ first.deeds, d.OfPort portId service rows)
    (onServer : second.OnServer) : l.Turned l' second.deeds := by
  rw [Effect.andThen, done, List.map_append] at deeds
  obtain ⟨front, back, rfl, did, did'⟩ := List.map_eq_append_iff.mp deeds
  obtain ⟨m, before, after⟩ := path.of_append
  have same := servesAs_of_ofPort before did own
  exact same.turned (turned_of_path after did' onServer)

/-! ## Events of a port -/

section Events

variable (settings : Settings) (calm : w.Calm) (shows : w.Shows l)

include calm shows

/-- A port that comes makes a server if it is a DHCP port, and otherwise does nothing to servers. -/
theorem turned_portCreated (linked : l.Linked) (native : settings.nativeDhcp = true) (p : Port) :
    (portCreated settings p).Goes w l fun _ _ l' => l.Turned l'
      (if p.role = .dhcp then
        (serverMade settings w.catalog p
          (Table.find? Store.Service.networkId p.networkId l.services) l.ports).deeds
      else []) := by
  refine Goes.mono (comes_portCreated settings calm shows linked p) ?_
  rintro r acts l' path ⟨-, deeds⟩
  rw [if_pos native, coming.eq_def] at deeds
  cases role : p.role with
  | dhcp =>
      rw [role] at deeds
      exact turned_of_path path deeds (onServer_serverMade settings w.catalog p _ _)
  | compute =>
      rw [role] at deeds
      exact .of_servesAs
        (servesAs_of_ofPort path deeds (ofPort_converged settings w.catalog _ _))
  | other =>
      rw [role] at deeds
      exact turned_of_path path (e := .done []) deeds (Or.inl rfl)

/-- What becomes of the network's server when a port changes. -/
def serverFollows (c : Catalog) (service : Option Store.Service)
    (ports : Option (List Store.PortMapping)) (old new : Port) : Effect :=
  if sameBindings old new then .done []
  else if new.role = .dhcp then
    if old.role = .dhcp then serverMoved old new service
    else serverMade settings c new service ports
  else if old.role = .dhcp then tornDown service (some old.id)
  else .done []

/-- A port that changes does to its network's server what follows from its two versions. -/
theorem turned_portUpdated (proper : l.Proper) (native : settings.nativeDhcp = true)
    {old new : Port} (stays : old.networkId = new.networkId) {p : Port}
    (known : w.catalog.answer (.port new.id) = some p) :
    (portUpdated settings old new).Goes w l fun r _ l' => r = .ok () →
      (serverFollows settings w.catalog
        (Table.find? Store.Service.networkId new.networkId l.services) l.ports old new).result
          = .ok () ∧
      l.Turned l' (serverFollows settings w.catalog
        (Table.find? Store.Service.networkId new.networkId l.services) l.ports old new).deeds := by
  rw [portUpdated, serverFollows, native, Bool.not_true, Bool.false_or]
  by_cases same : sameBindings old new = true
  · rw [if_pos same, if_pos same]
    exact Goes.pure shows fun _ => ⟨rfl, .stays rfl rfl⟩
  rw [if_neg same, if_neg same]
  refine Goes.locked (Goes.locked ?_)
  refine Goes.quiet (quiet_query shows (.port new.id)) ?_ fun e rough => absurd calm rough
  rintro port w1 follows1 shows1 answer
  cases answer.trans known
  have calm1 := calm.follows follows1
  refine Goes.ite (fun leaves => ?_) fun remains => ?_
  -- the server may be taken down first; then only rows change
  · refine Goes.bind proper (comes_teardown calm1 shows1 proper old.networkId (some old.id)) ?_
      fun e acts l' _ _ none => by cases none
    rintro u acts l2 w2 follows2 shows2 linked2 path ⟨result, torn⟩
    refine Goes.mono (comes_following settings (calm1.follows follows2) shows2 linked2 old new) ?_
    rintro r more l' path' ⟨ok, deeds⟩ rfl
    rw [following.eq_def, if_neg leaves.2] at ok deeds
    have turned := turned_of_path path torn (onServer_tornDown _ _)
    have rest := turned_andThen path' deeds (Effect.ok_of_andThen ok.symm).1
      (ofPort_converged settings w2.catalog _ _) (Or.inl rfl)
    rw [if_neg leaves.2, if_pos leaves.1, ← stays]
    exact ⟨result.symm, turned.stay rest⟩
  · refine Goes.mono (comes_following settings calm1 shows1 proper old new) ?_
    rintro r acts l' path ⟨ok, deeds⟩ rfl
    rw [following.eq_def, follows1.catalog] at ok deeds
    obtain ⟨done, result⟩ := Effect.ok_of_andThen ok.symm
    have turned := turned_andThen path deeds done (ofPort_converged settings w.catalog _ _)
    by_cases dhcp : new.role = .dhcp
    · rw [if_pos dhcp] at result turned ⊢
      split at result
      · next still =>
        rw [if_pos still] at turned ⊢
        exact ⟨result, turned (onServer_serverMoved old new _)⟩
      · next anew =>
        rw [if_neg anew] at turned ⊢
        exact ⟨result, turned (onServer_serverMade settings w.catalog new _ _)⟩
    · have other : ¬ old.role = .dhcp := fun was => remains ⟨was, dhcp⟩
      rw [if_neg dhcp] at result turned
      rw [if_neg dhcp, if_neg other]
      exact ⟨result, turned (Or.inl rfl)⟩

/-- A port that goes takes down the server that was made for it, if it is a DHCP port. -/
theorem turned_portDeleted (proper : l.Proper) (p : Port) :
    (portDeleted p).Goes w l fun _ _ l' => l.Turned l'
      (if p.role = .dhcp then
        (tornDown (Table.find? Store.Service.networkId p.networkId l.services)
          (some p.id)).deeds
      else []) := by
  refine Goes.mono (comes_portDeleted calm shows proper p) ?_
  rintro r acts l' path ⟨-, deeds⟩
  rw [going] at deeds
  have own : ∀ d ∈ (Effect.done ((l.view p.networkId (some p.id)).rows.map .release)).deeds,
      d.OfPort p.id none (l.view p.networkId (some p.id)).rows := by
    intro d hd
    obtain ⟨b, hb, rfl⟩ := List.mem_map.mp hd
    exact hb
  have turned := turned_andThen path deeds rfl own
  split at turned
  · next dhcp =>
    rw [if_pos dhcp]
    exact turned (onServer_tornDown _ _)
  · next other =>
    rw [if_neg other]
    exact turned (Or.inl rfl)

end Events

/-! ## What an event makes of the servers -/

/-- The version of a port that an event brings. -/
def Event.version? : Event → Option Port
  | .portCreated p => some p
  | .portUpdated _ new => some new
  | _ => none

/-- The port and the address to which an event takes the server of a network. -/
def Event.readdressing? (networkId : String) : Event → Option (String × IPv4)
  | .portUpdated old new =>
    if new.networkId = networkId ∧ old.role = .dhcp ∧ new.role = .dhcp then
      match broughtAddress old new with
      | .ok (some ip) => some (new.id, ip)
      | _ => none
    else none
  | _ => none

/-- The server of a network after an event. -/
def Event.moved (e : Event) (networkId : String) (v : HeldServer) : HeldServer :=
  match e.readdressing? networkId with
  | some (_, ip) => Controller.State.readdressed (.v4 ip) v
  | none => v

/-- Only a change of a DHCP port brings another address for the server, and the port's new address
is what it brings. -/
theorem Event.readdressing?_eq_some_iff {e : Event} {networkId : String} {c : String × IPv4} :
    e.readdressing? networkId = some c ↔ ∃ old new, e = .portUpdated old new ∧
      new.networkId = networkId ∧ old.role = .dhcp ∧ new.role = .dhcp ∧
      broughtAddress old new = .ok (some c.2) ∧ new.id = c.1 := by
  constructor
  · intro h
    cases e with
    | portUpdated old new =>
        rw [readdressing?] at h
        split at h
        · next here =>
          split at h
          · next ip brought =>
            cases h
            exact ⟨old, new, rfl, here.1, here.2.1, here.2.2, brought, rfl⟩
          · exact nomatch h
        · exact nomatch h
    | _ => exact nomatch h
  · obtain ⟨portId, ip⟩ := c
    rintro ⟨old, new, rfl, home, was, dhcp, brought, rfl⟩
    rw [readdressing?, if_pos ⟨home, was, dhcp⟩, brought]

/-- A server stays what it was, unless a DHCP port of its network brings it another address. -/
theorem Event.moved_of_unbrought {old new : Port} {networkId : String}
    (unbrought : new.networkId = networkId → old.role = .dhcp → new.role = .dhcp →
      ∀ ip, broughtAddress old new ≠ .ok (some ip)) :
    (Event.portUpdated old new).moved networkId = id := by
  have silent : (Event.portUpdated old new).readdressing? networkId = none := by
    refine Option.eq_none_iff_forall_ne_some.mpr fun c some => ?_
    obtain ⟨_, _, itself, home, was, dhcp, brought, -⟩ := readdressing?_eq_some_iff.mp some
    cases itself
    exact unbrought home was dhcp c.2 brought
  funext v
  rw [moved, silent]
  rfl

/-- A port has one address exactly if this is its only IPv4 address. -/
theorem portAddress_eq_some_iff {p : Port} {f : String × IPv4} :
    portAddress p = .ok (some f) ↔ p.ipv4s = [f] := by
  rw [portAddress]
  split <;> simp_all

/-- A port brings its address to the server, unless it had this address before. -/
theorem broughtAddress_eq_some_iff {old new : Port} {ip : IPv4} :
    broughtAddress old new = .ok (some ip) ↔
      (∃ f, portAddress new = .ok (some f) ∧ f.2 = ip) ∧
        ∀ g, portAddress old = .ok (some g) → g.2 ≠ ip := by
  cases here : portAddress new with
  | error cause =>
      have refused : broughtAddress old new = .error (.invalidInput cause) := by
        rw [broughtAddress, here]
        rfl
      simp [refused]
  | ok found =>
      cases found with
      | none =>
          have nothing : broughtAddress old new = .ok none := by
            rw [broughtAddress, here]
            rfl
          simp [nothing]
      | some f =>
          -- whether the old version had one address to compare with
          by_cases had : ∃ g, portAddress old = .ok (some g)
          · obtain ⟨g, before⟩ := had
            have brought : broughtAddress old new =
                .ok (if some g.2 = some f.2 then none else some f.2) := by
              rw [broughtAddress, here, before]
              rfl
            rw [brought]
            grind
          · have brought : broughtAddress old new = .ok (some f.2) := by
              rw [broughtAddress, here]
              cases before : portAddress old with
              | error cause => rfl
              | ok found =>
                  cases found with
                  | none => rfl
                  | some g => exact absurd ⟨g, before⟩ had
            rw [brought]
            grind

/-- Versions of a port that are the same for bindings have the same address. -/
theorem portAddress_of_sameBindings {old new : Port} (same : sameBindings old new = true)
    {f : String × IPv4} : portAddress new = .ok (some f) ↔ portAddress old = .ok (some f) := by
  rw [sameBindings, Bool.and_eq_true] at same
  have fixedIps : old.fixedIps = new.fixedIps := of_decide_eq_true same.2
  rw [portAddress_eq_some_iff, portAddress_eq_some_iff, Port.ipv4s, Port.ipv4s, fixedIps]

/-- Versions of a port that are the same for bindings have the same role. -/
theorem role_of_sameBindings {old new : Port} (same : sameBindings old new = true) :
    new.role = old.role := by
  rw [sameBindings, Bool.and_eq_true, Bool.and_eq_true] at same
  have owner : old.deviceOwner = new.deviceOwner := of_decide_eq_true same.1.2
  rw [Port.role, Port.role, owner]

/-- Versions of a port that are the same for bindings bring no other address. -/
theorem brought_of_sameBindings {old new : Port} (same : sameBindings old new = true) (ip : IPv4) :
    broughtAddress old new ≠ .ok (some ip) := by
  intro brought
  obtain ⟨⟨f, address, here⟩, other⟩ := broughtAddress_eq_some_iff.mp brought
  exact other f ((portAddress_of_sameBindings same).mp address) here

/-- A server is made at an address of its port. -/
theorem serverIp_of_serverConfig {n : Network} {s : Subnet} {p : Port} {settings : Settings}
    {config : DhcpServerConfig} (made : serverConfig n s p settings = .ok config) :
    ∃ block, config.serverIp = .v4 block ∧ addressIn p s.id = some block.address := by
  obtain ⟨⟨ip, fits, inside, address⟩, -⟩ := serverConfig_ok made
  exact ⟨_, address, inside⟩

/-- A server is made with the address of the port that it is made for. -/
theorem address_of_askedServer {c : Catalog} {settings : Settings} {p : Port} {f : String × IPv4}
    {config : DhcpServerConfig} (asked : askedServer c settings p f.1 = .ok (some config))
    (address : portAddress p = .ok (some f)) (serverId : String) :
    (HeldServer.mk serverId config).address? = some f.2 := by
  obtain ⟨s, n, made⟩ : ∃ s n, serverConfig n s p settings = .ok config := by
    rw [askedServer] at asked
    split at asked
    · cases asked
    next s _ =>
      split at asked
      · split at asked
        · cases asked
        next n _ =>
          refine ⟨s, n, ?_⟩
          cases made : serverConfig n s p settings with
          | error e => rw [made] at asked; cases asked
          | ok config' => rw [made] at asked; cases asked; rfl
      · cases asked
  obtain ⟨block, ip, inside⟩ := serverIp_of_serverConfig made
  obtain ⟨g, found, same⟩ := Option.map_eq_some_iff.mp inside
  rw [portAddress_eq_some_iff.mp address] at found
  cases List.mem_singleton.mp (List.mem_of_find?_eq_some found)
  rw [HeldServer.address?, ip, same]

namespace Ledger

variable {l l' : Ledger} {x : Store.Service}

/-- A service that was there before, with the server that `f` makes of its server. -/
structure Keeps (l l' : Ledger) (f : HeldServer → HeldServer) (x : Store.Service) : Prop where
  old : x ∈ l.services
  server : ∀ v ∈ l.servers, v.id = x.serverId → f v ∈ l'.servers

/-- A service that was made for a port, with a server at the port's address. -/
structure MadeFor (l l' : Ledger) (p : Port) (x : Store.Service) : Prop where
  owner : x.portId = p.id
  home : x.networkId = p.networkId
  name : x.serverId = Controller.State.serverName (l.serversMade + 1)
  server : ∃ f, portAddress p = .ok (some f) ∧
    ∃ v ∈ l'.servers, v.id = x.serverId ∧ v.address? = some f.2

/-- Without a deed, every service that is there was there before with its server as it is. -/
theorem Turned.keeps (turned : l.Turned l' []) (hx : x ∈ l'.services) : l.Keeps l' id x := by
  cases turned with
  | stays services servers => exact ⟨services ▸ hx, fun v hv _ => servers ▸ hv⟩

/-- A service that is there after a server was made was there before, or was made for the port. -/
theorem Turned.of_serverMade {settings : Settings} {c : Catalog} {p : Port}
    (turned : l.Turned l' (serverMade settings c p
      (Table.find? Store.Service.networkId p.networkId l.services) l.ports).deeds)
    (hx : x ∈ l'.services) : l.Keeps l' id x ∨ l.MadeFor l' p x := by
  rw [serverMade.eq_def] at turned
  split at turned
  · exact Or.inl (turned.keeps hx)
  · exact Or.inl (turned.keeps hx)
  · exact Or.inl (turned.keeps hx)
  next f _ address =>
    split at turned
    · exact Or.inl (turned.keeps hx)
    · exact Or.inl (turned.keeps hx)
    next config asked =>
      cases turned with
      | serves time new services servers =>
          rw [services] at hx
          rcases List.mem_append.mp hx with old | added
          · exact Or.inl ⟨old, fun v hv _ => servers ▸ List.mem_append_left _ hv⟩
          · cases List.mem_singleton.mp added
            refine Or.inr ⟨rfl, rfl, rfl, f, address, _, ?_, rfl,
              address_of_askedServer asked address _⟩
            exact servers ▸ List.mem_append_right _ (List.mem_singleton_self _)

/-- A service that is there after one was taken down was there before, and was not made for the port
that went. -/
theorem Turned.of_tornDown (proper : l.Proper) {networkId owner : String}
    (turned : l.Turned l' (tornDown (Table.find? Store.Service.networkId networkId l.services)
      (some owner)).deeds) (hx : x ∈ l'.services) :
    l.Keeps l' id x ∧ (x.networkId = networkId → x.portId ≠ owner) := by
  cases found : Table.find? Store.Service.networkId networkId l.services with
  | none =>
      rw [found] at turned
      have keeps := Turned.keeps turned hx
      exact ⟨keeps, fun home => absurd home (Table.find?_eq_none_iff.mp found x keeps.old)⟩
  | some y =>
      obtain ⟨hy, rfl⟩ := Table.mem_of_find? found
      rw [found, tornDown] at turned
      split at turned
      · next other =>
        have keeps := Turned.keeps turned hx
        refine ⟨keeps, fun home same => ?_⟩
        cases proper.services_keyed.eq_of_key keeps.old hy home
        exact of_decide_eq_true other same.symm
      · cases turned with
        | retires services servers =>
            rw [services] at hx
            obtain ⟨old, other⟩ := Table.mem_remove.mp hx
            refine ⟨⟨old, fun v hv id => ?_⟩, fun home => absurd home other⟩
            rw [servers]
            refine Table.mem_remove.mpr ⟨hv, fun same => other ?_⟩
            rw [proper.owners_keyed.eq_of_key old hy (id.symm.trans same)]

/-- A service that is there after a server was moved was there before, with its server where the
port is now. -/
theorem Turned.of_serverMoved (proper : l.Proper) {old new : Port} (was : old.role = .dhcp)
    (dhcp : new.role = .dhcp) (turned : l.Turned l' (serverMoved old new
      (Table.find? Store.Service.networkId new.networkId l.services)).deeds)
    (hx : x ∈ l'.services) :
    l.Keeps l' ((Event.portUpdated old new).moved x.networkId) x := by
  rw [serverMoved.eq_def] at turned
  split at turned
  · next e brought =>
    rw [Event.moved_of_unbrought fun _ _ _ ip brought' => by cases brought.symm.trans brought']
    exact Turned.keeps turned hx
  · next ip y brought found =>
    obtain ⟨hy, home⟩ := Table.mem_of_find? found
    obtain ⟨u, hu, mine⟩ := proper.server_of_service y hy
    cases turned with
    | readdresses services servers =>
        have old' : x ∈ l.services := services ▸ hx
        refine ⟨old', fun v hv id => ?_⟩
        rw [servers, ← mine, Table.mem_modify proper.servers_keyed hu]
        -- the server that was readdressed is this service's exactly if its network is the port's
        by_cases here : new.networkId = x.networkId
        · left
          cases proper.services_keyed.eq_of_key old' hy (here.symm.trans home.symm)
          cases proper.servers_keyed.eq_of_key hv hu (id.trans mine.symm)
          have some : (Event.portUpdated old new).readdressing? x.networkId = some (new.id, ip) :=
            Event.readdressing?_eq_some_iff.mpr ⟨old, new, rfl, here, was, dhcp, brought, rfl⟩
          rw [Event.moved, some]
        · right
          rw [Event.moved_of_unbrought fun home _ _ => absurd home here]
          refine ⟨hv, fun same => here ?_⟩
          have itself := proper.owners_keyed.eq_of_key old' hy
            (id.symm.trans (same.trans mine))
          rw [itself, home]
  · next address brought unserved =>
    have keeps := Turned.keeps turned hx
    rw [Event.moved_of_unbrought fun home _ _ ip brought' => ?_]
    · exact keeps
    · rw [home] at unserved
      exact unserved ip x (proper.services_keyed.find? keeps.old)
        (Except.ok.inj (brought.symm.trans brought'))

/-- What an event makes of a service that is there after it: it was there before, and its server
has followed what the event brings; or it was made for the port that the event tells of. -/
inductive Brings (l l' : Ledger) (e : Event) (x : Store.Service) : Prop
  | kept (keeps : l.Keeps l' (e.moved x.networkId) x)
      (remains : ∀ old new, e = .portUpdated old new → new.networkId = x.networkId →
        old.role = .dhcp → x.portId = old.id → new.role = .dhcp)
  | made {p : Port} (version : e.version? = some p) (dhcp : p.role = .dhcp)
      (madeFor : l.MadeFor l' p x)

end Ledger

section Brings

variable {w : World} {l : Ledger} (settings : Settings) (calm : w.Calm) (shows : w.Shows l)

include calm shows

/-- What a port that comes makes of the services. -/
theorem brings_portCreated (linked : l.Linked) (native : settings.nativeDhcp = true) (p : Port) :
    (portCreated settings p).Goes w l fun _ _ l' =>
      ∀ x ∈ l'.services, l.Brings l' (.portCreated p) x := by
  refine Goes.mono (turned_portCreated settings calm shows linked native p) ?_
  intro r acts l' path turned x hx
  have kept (keeps : l.Keeps l' id x) : l.Brings l' (.portCreated p) x :=
    .kept keeps fun _ _ same => nomatch same
  by_cases dhcp : p.role = .dhcp
  · rw [if_pos dhcp] at turned
    rcases turned.of_serverMade hx with keeps | madeFor
    · exact kept keeps
    · exact .made rfl dhcp madeFor
  · rw [if_neg dhcp] at turned
    exact kept (turned.keeps hx)

/-- What a port that changes makes of the services. -/
theorem brings_portUpdated (proper : l.Proper) (native : settings.nativeDhcp = true)
    {old new : Port} (stays : old.networkId = new.networkId) {p : Port}
    (known : w.catalog.answer (.port new.id) = some p) :
    (portUpdated settings old new).Goes w l fun r _ l' =>
      r = .ok () → ∀ x ∈ l'.services, l.Brings l' (.portUpdated old new) x := by
  refine Goes.mono (turned_portUpdated settings calm shows proper native stays known) ?_
  intro r acts l' path turned ok x hx
  obtain ⟨-, turned⟩ := turned ok
  rw [serverFollows] at turned
  split at turned
  -- nothing changed that matters to bindings, nor has the port's role then
  · next unchanged =>
    refine .kept ?_ ?_
    · rw [Event.moved_of_unbrought fun _ _ _ => brought_of_sameBindings unchanged]
      exact turned.keeps hx
    · rintro _ _ itself - was -
      cases itself
      exact (role_of_sameBindings unchanged).trans was
  split at turned
  -- it is a DHCP port now, so it stays the owner of what it owned
  · next dhcp =>
    have remains : ∀ old' new', Event.portUpdated old new = .portUpdated old' new' →
        new'.networkId = x.networkId → old'.role = .dhcp → x.portId = old'.id →
        new'.role = .dhcp := by
      rintro _ _ itself - - -
      cases itself
      exact dhcp
    split at turned
    · next was => exact .kept (turned.of_serverMoved proper was dhcp hx) remains
    · next was =>
      rcases turned.of_serverMade hx with keeps | madeFor
      · refine .kept ?_ remains
        rw [Event.moved_of_unbrought fun _ dhcp => absurd dhcp was]
        exact keeps
      · exact .made rfl dhcp madeFor
  -- it is none now: if it was one, the server that was made for it goes
  · next other =>
    have moved : (Event.portUpdated old new).moved x.networkId = id :=
      Event.moved_of_unbrought fun _ _ dhcp => absurd dhcp other
    split at turned
    · next was =>
      obtain ⟨keeps, spared⟩ := turned.of_tornDown proper hx
      refine .kept (moved ▸ keeps) ?_
      rintro _ _ itself home - owner
      cases itself
      exact absurd owner (spared home.symm)
    · next was =>
      refine .kept (moved ▸ turned.keeps hx) ?_
      rintro _ _ itself - dhcp -
      cases itself
      exact absurd dhcp was

/-- What a port that goes makes of the services. -/
theorem brings_portDeleted (proper : l.Proper) (p : Port) :
    (portDeleted p).Goes w l fun _ _ l' =>
      ∀ x ∈ l'.services, l.Brings l' (.portDeleted p) x := by
  refine Goes.mono (turned_portDeleted calm shows proper p) ?_
  intro r acts l' path turned x hx
  have kept (keeps : l.Keeps l' id x) : l.Brings l' (.portDeleted p) x :=
    .kept keeps fun _ _ same => nomatch same
  split at turned
  · exact kept (turned.of_tornDown proper hx).1
  · exact kept (turned.keeps hx)

end Brings

end Overlay.Dhcp
