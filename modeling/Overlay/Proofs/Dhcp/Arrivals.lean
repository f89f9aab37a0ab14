import Overlay.Proofs.Dhcp.Runs

/-!
# What comes of new ports

Ports that come one after the other, each of them handled on its own and whatever becomes of the
ones before. If DHCP ports come first, their networks have servers by the time that instance ports
come; then every address of an instance port in a subnet of its network that is served by DHCP is
bound on the network's server (`portBinds`).

Main statement: `goes_arrivals`.
-/

namespace Overlay.Dhcp

open Overlay.Handler

variable {w : World} {l : Ledger} {c : Catalog} {settings : Settings} {p : Port}

/-! ## One port -/

/-- What comes of a DHCP port: the server that its network is to have, if it has none. -/
def Serves (w : World) (l : Ledger) (settings : Settings) (ports : List Port) (acts : List Act) :
    Prop :=
  (∀ a ∈ acts, ∃ s, a.served? = some s) ∧ (Smooth w l → acts.filterMap Act.served?
    = serversFor w.catalog settings (l.services.map (·.networkId)) ports)

/-- For one port at most one server is made. -/
theorem serversFor_singleton (c : Catalog) (settings : Settings) (taken : List String) (p : Port) :
    serversFor c settings taken [p] = (serverFor c settings taken p).toList :=
  List.append_nil _

/-- A port with one address has no other IPv4 address. -/
theorem ipv4s_of_portAddress {f : String × IPv4} (h : portAddress p = .ok (some f)) :
    p.ipv4s = [f] := by
  rw [portAddress] at h
  cases addresses : p.ipv4s with
  | nil =>
      rw [addresses] at h
      exact nomatch h
  | cons g rest =>
      rw [addresses] at h
      cases rest with
      | nil =>
          cases h
          rfl
      | cons g' rest => exact nomatch h

/-- Making the server of a network serves the one port that it is made for. -/
theorem goes_createServiceFor_serves (shows : w.Shows l) (linked : l.Linked) (settings : Settings)
    (p : Port) (single : p.ipv4s.length ≤ 1) :
    (createServiceFor settings p).Goes w l fun _ acts _ => Serves w l settings [p] acts := by
  refine Goes.mono (goes_createServiceFor shows linked settings p) ?_
  rintro r acts l' - h
  rw [Serves, serversFor_singleton]
  rcases h with ⟨rfl, ⟨there, -⟩ | ⟨-, noAddress, -⟩⟩ |
    ⟨f, address, new, ⟨rfl, unwanted⟩ | ⟨config, time, wanted, rfl, -⟩⟩
  · obtain ⟨x, hx, same⟩ := there
    refine ⟨fun a ha => (nomatch ha), fun _ => ?_⟩
    rw [serverFor_taken _ _ hx same]
    rfl
  · refine ⟨fun a ha => (nomatch ha), fun _ => ?_⟩
    -- with at most one address, to have no single one is to have none
    have none : p.ipv4s = [] := by
      cases addresses : p.ipv4s with
      | nil => rfl
      | cons f rest =>
          rw [addresses] at single
          cases rest with
          | nil =>
              refine absurd ?_ (noAddress f)
              rw [portAddress, addresses]
          | cons g rest => exact absurd single (by simp)
    rw [serverFor, none, ite_self]
    rfl
  all_goals rw [serverFor_free _ _ new (ipv4s_of_portAddress address)]
  · refine ⟨fun a ha => (nomatch ha), fun smooth => ?_⟩
    rw [(unwanted smooth.calm).1]
    rfl
  · refine ⟨fun a ha => List.mem_singleton.mp ha ▸ ⟨_, rfl⟩, fun _ => ?_⟩
    rw [wanted]
    rfl

/-- The bindings for the addresses of a port, on the server of its network. -/
def portBinds (services : List Store.Service) (c : Catalog) (p : Port) :
    List (Store.Service × String × Desired) :=
  match Table.find? Store.Service.networkId p.networkId services with
  | some x => (wantedBindings c p).map fun d => (x, p.id, d)
  | none => []

/-- All addresses of a port that are bound are aimed at. -/
theorem BoundAll.aims {x : Store.Service} {news : List Desired} {r : Except Error Unit}
    {acts : List Act} (bound : BoundAll w x p.id news r acts) :
    Aims w (news.map fun d => (x, p.id, d)) acts := by
  refine ⟨fun a ha => ?_, fun calm => ?_⟩
  · obtain ⟨d, hd, aim⟩ := bound.1 a ha
    exact ⟨_, List.mem_map.mpr ⟨d, hd, rfl⟩, aim⟩
  · cases r with
    | ok u =>
        refine filterMap_of_map (bound.2.trans ?_)
        rw [List.map_map]
        rfl
    | error e => exact absurd calm bound.2

/-- What binding the addresses of a port comes to: if the handler gets to its end, each address that
is wanted is bound with its row, and nothing else happens. -/
def Gets (w : World) (l : Ledger) (p : Port) (r : Except Error Unit) (acts : List Act) : Prop :=
  Aims w (portBinds l.services w.catalog p) acts ∧ ∀ u, r = .ok u →
    acts.map Act.bound? = (portBinds l.services w.catalog p).map some ∧
      (portBinds l.services w.catalog p).length = (wantedBindings w.catalog p).length

/-- Nothing is wanted. -/
theorem gets_nothing (news : wantedBindings w.catalog p = []) (r : Except Error Unit) :
    Gets w l p r [] := by
  have none : portBinds l.services w.catalog p = [] := by
    rw [portBinds, news]
    split <;> rfl
  rw [Gets, none, news]
  exact ⟨.nil w, fun _ _ => ⟨rfl, rfl⟩⟩

/-- A port without rows: its addresses are bound. -/
theorem goes_converge_nil (shows : w.Shows l) (linked : l.Linked) (settings : Settings)
    (compute : p.isCompute = true) :
    (converge settings p []).Goes w l fun r acts _ => Gets w l p r acts := by
  have nothing : ∀ e, ¬ w.Calm → Gets w l p (.error e) [] := fun e rough =>
    ⟨⟨fun a ha => (nomatch ha), fun calm => absurd calm rough⟩, fun u none => nomatch none⟩
  rw [converge, if_pos compute]
  refine Goes.quiet (quiet_servedSubnets shows p.networkId) ?_ nothing
  rintro ids w1 follows1 shows1 rfl
  have wanted : desiredBindings p _ = wantedBindings w.catalog p := rfl
  rw [pure_bind, wanted]
  dsimp only
  rw [plan_nil]
  refine Goes.quiet (quiet_serviceFor shows1 p _) ?_ ?_
  -- with nothing to bind the server is not looked up
  · rintro service w2 follows2 shows2 needed
    cases news : wantedBindings w.catalog p with
    | nil =>
        refine Goes.pure shows2 ?_
        exact gets_nothing news _
    | cons d rest =>
        rw [news] at needed
        obtain ⟨x, rfl, here⟩ := neededService_found needed.symm rfl
        have binds : portBinds l.services w.catalog p = (d :: rest).map fun d => (x, p.id, d) := by
          rw [portBinds, here, news]
        have hx := (Table.mem_of_find? here).1
        refine Goes.mono (goes_binds settings (d :: rest) shows2 linked hx) ?_
        rintro r acts l' - bound
        rw [Gets, binds, news, List.length_map, List.map_map]
        refine ⟨bound.aims.follows (follows1.trans follows2), fun u ok => ⟨?_, rfl⟩⟩
        rw [ok] at bound
        exact bound.2
  -- the network has no server, so none of the addresses can be bound
  · intro e missing
    cases news : wantedBindings w.catalog p with
    | nil => exact gets_nothing news _
    | cons d rest =>
        rw [news] at missing
        refine ⟨?_, fun u none => nomatch none⟩
        cases found : Table.find? Store.Service.networkId p.networkId l.services with
        | none =>
            rw [portBinds, found]
            exact .nil w
        | some x =>
            rw [found] at missing
            exact nomatch missing

/-- The arrival of a DHCP port serves this port. -/
theorem goes_portCreated_dhcp (shows : w.Shows l) (linked : l.Linked)
    (native : settings.nativeDhcp = true) (role : p.role = .dhcp) (single : p.ipv4s.length ≤ 1) :
    (portCreated settings p).Goes w l fun _ acts _ => Serves w l settings [p] acts := by
  rw [portCreated, if_pos native]
  refine Goes.locked (Goes.locked ?_)
  rw [role]
  exact goes_createServiceFor_serves shows linked settings p single

/-- The arrival of an instance port gets the port its addresses. -/
theorem goes_portCreated_compute (shows : w.Shows l) (linked : l.Linked)
    (native : settings.nativeDhcp = true) (role : p.role = .compute) :
    (portCreated settings p).Goes w l fun r acts _ => Gets w l p r acts := by
  have compute : p.isCompute = true := by rw [Port.isCompute, role]; rfl
  rw [portCreated, if_pos native]
  refine Goes.locked (Goes.locked ?_)
  rw [role]
  exact goes_converge_nil shows linked settings compute

/-! ## One port after the other -/

/-- A loop over handlers that cannot stop it. -/
theorem goes_each {h : Port → Handler Unit} (shows : w.Shows l) (linked : l.Linked)
    (I : List Port → List Act → Ledger → Prop) {ports : List Port} (start : I [] [] l)
    (next : ∀ done p acts l' w', p ∈ ports → w.Follows w' → w'.Shows l' → l'.Linked →
      Path l acts l' → I done acts l' →
      (h p).Goes w' l' fun _ more l'' => I (done ++ [p]) (acts ++ more) l'') :
    Goes (ports.foldlM (fun _ p => do let _ ← attempt (h p)) ()) w l fun r acts l' =>
      r = .ok () ∧ I ports acts l' := by
  refine Goes.foldlM shows linked (fun done _ acts l' => I done acts l') (fun _ _ => False) start
    ?_ (fun _ _ _ here => ⟨rfl, here⟩) fun _ _ _ never => never.elim
  intro done p _ acts l' w' hp follows shows' linked' path here
  refine Goes.bind linked' (Goes.attempt (T := fun r more l'' => ∃ r', r = .ok r' ∧
    I (done ++ [p]) (acts ++ more) l'') (Goes.mono
      (next done p acts l' w' hp follows shows' linked' path here)
      fun r more l'' _ here' => ⟨r, rfl, here'⟩)) ?_ ?_
  · rintro r more l'' w'' - shows'' - - ⟨_, -, here'⟩
    refine Goes.pure shows'' ?_
    rw [List.append_nil]
    exact here'
  · rintro e more l'' - ⟨r', none, -⟩
    exact nomatch none

/-- Ports are served one after the other. -/
theorem Serves.concat {ports : List Port} {acts more : List Act} {w' : World} {l' : Ledger}
    (follows : w.Follows w') (path : Path l acts l') (h : Serves w l settings ports acts)
    (h' : Serves w' l' settings [p] more) : Serves w l settings (ports ++ [p]) (acts ++ more) := by
  constructor
  · exact fun a ha => (List.mem_append.mp ha).elim (h.1 a) (h'.1 a)
  · intro smooth
    have here := h'.2 (smooth.follows follows path)
    rw [path.networks_eq (builds_of_served h.1), h.2 smooth, follows.catalog] at here
    rw [List.filterMap_append, h.2 smooth, here, serversFor_append]

/-- Handles new ports one after the other, whatever becomes of each. -/
def arrivals (settings : Settings) (ports : List Port) : Handler Unit :=
  ports.foldlM (fun _ p => do let _ ← attempt (portCreated settings p)) ()

/-- Arrivals of DHCP ports serve all of them. -/
theorem goes_arrivals_dhcp (shows : w.Shows l) (linked : l.Linked)
    (native : settings.nativeDhcp = true) (ports : List Port)
    (single : ∀ p ∈ ports, p.role = .dhcp ∧ p.ipv4s.length ≤ 1) :
    (arrivals settings ports).Goes w l fun r acts _ =>
      r = .ok () ∧ Serves w l settings ports acts := by
  refine goes_each shows linked (fun done acts _ => Serves w l settings done acts)
    ⟨fun a ha => (nomatch ha), fun _ => rfl⟩ ?_
  intro done p acts l' w' hp follows shows' linked' path serves
  obtain ⟨role, one⟩ := single p hp
  refine Goes.mono (goes_portCreated_dhcp shows' linked' native role one) ?_
  intro r more l'' _ here
  exact serves.concat follows path here

/-- Arrivals of instance ports aim at all their addresses. -/
theorem goes_arrivals_compute (shows : w.Shows l) (linked : l.Linked)
    (native : settings.nativeDhcp = true) (ports : List Port)
    (compute : ∀ p ∈ ports, p.role = .compute) :
    (arrivals settings ports).Goes w l fun r acts _ =>
      r = .ok () ∧ Aims w (ports.flatMap (portBinds l.services w.catalog)) acts := by
  refine goes_each shows linked
    (fun done acts _ => Aims w (done.flatMap (portBinds l.services w.catalog)) acts) (.nil w) ?_
  intro done p acts l' w' hp follows shows' linked' path aims
  refine Goes.mono (goes_portCreated_compute shows' linked' native (compute p hp)) ?_
  rintro r more l'' - ⟨here, -⟩
  have kept : l'.services = l.services := path.services_eq fun a ha =>
    let ⟨b, _, aim⟩ := aims.1 a ha
    Or.inr ⟨b, aim⟩
  rw [kept, follows.catalog] at here
  rw [List.flatMap_append, List.flatMap_singleton]
  exact aims.append follows here

/-- What comes of new ports if DHCP ports come first: servers, and then the bindings of instance
ports on them. -/
def Arrived (w : World) (l : Ledger) (settings : Settings) (ports : List Port) (acts : List Act)
    (l' : Ledger) : Prop :=
  ∃ made binds between, acts = made ++ binds ∧ Path l made between ∧ Path between binds l' ∧
    Serves w l settings (ports.filter fun p => p.role = .dhcp) made ∧
      Aims w ((ports.filter fun p => p.role = .compute).flatMap
        (portBinds between.services w.catalog)) binds

/-- Arrivals of the DHCP ports, and then of the instance ports. -/
theorem goes_arrivals (shows : w.Shows l) (linked : l.Linked)
    (native : settings.nativeDhcp = true) (ports : List Port)
    (single : ∀ p ∈ ports, p.role = .dhcp → p.ipv4s.length ≤ 1) :
    (arrivals settings ((ports.filter fun p => p.role = .dhcp) ++
      ports.filter fun p => p.role = .compute)).Goes w l fun _ acts l' =>
        Arrived w l settings ports acts l' := by
  have first : ∀ p ∈ ports.filter fun p => p.role = .dhcp,
      p.role = .dhcp ∧ p.ipv4s.length ≤ 1 := by
    intro p hp
    obtain ⟨hp, role⟩ := List.mem_filter.mp hp
    have role := of_decide_eq_true role
    exact ⟨role, single p hp role⟩
  have second : ∀ p ∈ ports.filter fun p => p.role = .compute, p.role = .compute :=
    fun p hp => of_decide_eq_true (List.mem_filter.mp hp).2
  rw [arrivals, List.foldlM_append]
  refine Goes.bind linked (goes_arrivals_dhcp shows linked native _ first) ?_ ?_
  · rintro _ made between w' follows shows' linked' path ⟨-, serves⟩
    refine Goes.mono (goes_arrivals_compute shows' linked' native _ second) ?_
    rintro r binds l' path' ⟨-, aims⟩
    rw [follows.catalog] at aims
    exact ⟨made, binds, between, rfl, path, path', serves, aims.follows follows⟩
  · rintro e made between - ⟨none, -⟩
    exact nomatch none

/-- The surroundings after the ports were created one after the other, each an event of its own. -/
def afterArrivals (settings : Settings) (w : World) (ports : List Port) : World :=
  ports.foldl (fun w p => (Delivery.mk settings (.portCreated p) w).after) w

/-- Arrivals leave what one delivery after the other leaves. -/
theorem runIn_arrivals (settings : Settings) (ports : List Port) (w : World) :
    (arrivals settings ports).runIn w = (.ok (), afterArrivals settings w ports) := by
  rw [arrivals, afterArrivals]
  induction ports generalizing w with
  | nil => rfl
  | cons p rest ih =>
      rw [List.foldlM_cons, runIn_bind, runIn_bind, runIn_attempt]
      exact ih _

end Overlay.Dhcp
