import Overlay.Proofs.Dhcp.Runs
import Overlay.Proofs.Dhcp.Turns

/-!
# Servers and the ports they were made for

A service remembers the port that its server was made for, its owner. The server is taken down with
its owner only; but it follows every DHCP port of the network to another address, whether it was
made for this port or not.

`lastVersion?` is how a port was delivered last, and `readdressings` are the changes of DHCP ports
that a server has followed since it was made. Where nothing fails, a server is reached at the address
of its owner if and only if the last of these changes is the owner's, or came to the same address.

Main statement: `server_keeps_address_iff`.
-/

namespace Overlay.Dhcp

open Overlay.Handler
open Overlay.Controller (HeldServer)

/-! ## Histories of ports -/

/-- The version of a port that was delivered last. -/
def lastVersion? (ds : List Delivery) (portId : String) : Option Port :=
  ((ds.filterMap (·.event.version?)).filter (·.id = portId)).getLast?

/-- The events of ports are delivered in the order of their histories: a port is created once, a
change starts from the version that was delivered last and keeps the port's network, the catalog has
the new version, and the change succeeds. -/
def Delivery.Mirrors (before : List Delivery) (d : Delivery) : Prop :=
  match d.event with
  | .portCreated p => lastVersion? before p.id = none
  | .portUpdated old new => lastVersion? before new.id = some old ∧
    old.networkId = new.networkId ∧ d.world.catalog.answer (.port new.id) = some new ∧
    d.answer.isOk = true
  | .portDeleted _ => True
  | _ => False

/-- Each event mirrors those before it. -/
def Mirrored (ds : List Delivery) : Prop :=
  ∀ before d, before ++ [d] <+: ds → d.Mirrors before

/-- What the server of a service has followed since it was made. -/
def readdressings (ds : List Delivery) (x : Store.Service) : List (String × IPv4) :=
  (ds.filter fun d => d.world.controller.servers.any (·.id = x.serverId)).filterMap
    (·.event.readdressing? x.networkId)

section Histories

variable {ds : List Delivery} {d : Delivery}

theorem lastVersion?_concat (ds : List Delivery) (d : Delivery) (portId : String) :
    lastVersion? (ds ++ [d]) portId
      = ((d.event.version?).filter (·.id = portId)).or (lastVersion? ds portId) := by
  rw [lastVersion?, List.filterMap_append, List.filter_append, List.getLast?_append]
  congr 1
  rw [List.filterMap_cons, List.filterMap_nil]
  cases d.event.version? with
  | none => rfl
  | some p =>
      by_cases same : p.id = portId
      · simp [Option.filter_some, same]
      · simp [Option.filter_some, same]

theorem id_of_lastVersion? {portId : String} {p : Port} (h : lastVersion? ds portId = some p) :
    p.id = portId :=
  of_decide_eq_true (List.mem_filter.mp (List.mem_of_getLast? h)).2

theorem readdressings_concat {x : Store.Service}
    (there : d.world.controller.servers.any (·.id = x.serverId) = true) :
    readdressings (ds ++ [d]) x
      = readdressings ds x ++ (d.event.readdressing? x.networkId).toList := by
  rw [readdressings, List.filter_append, List.filterMap_append]
  congr 1
  rw [List.filter_cons, if_pos there, List.filter_nil, List.filterMap_cons, List.filterMap_nil]
  cases d.event.readdressing? x.networkId <;> rfl

/-- A server that was never there has followed nothing. -/
theorem readdressings_new {x : Store.Service}
    (new : ∀ d ∈ ds, ∀ v ∈ d.world.controller.servers, v.id ≠ x.serverId) :
    readdressings ds x = [] := by
  rw [readdressings, List.filter_eq_nil_iff.mpr, List.filterMap_nil]
  intro d hd there
  obtain ⟨v, hv, id⟩ := List.any_eq_true.mp there
  exact new d hd v hv (of_decide_eq_true id)

theorem mirrored_nil : Mirrored [] := fun before _ h =>
  absurd (List.prefix_nil.mp h) (List.append_ne_nil_of_right_ne_nil before (List.cons_ne_nil _ _))

theorem mirrored_concat_iff : Mirrored (ds ++ [d]) ↔ Mirrored ds ∧ d.Mirrors ds := by
  constructor
  · exact fun mirrored => ⟨fun before e h => mirrored before e (h.trans (List.prefix_append ds [d])),
      mirrored ds d (List.prefix_refl _)⟩
  · rintro ⟨mirrored, mirrors⟩ before e h
    rcases List.prefix_concat_iff.mp h with same | early
    · obtain ⟨rfl, last⟩ := List.append_inj' same rfl
      cases last
      exact mirrors
    · exact mirrored before e early

end Histories

/-! ## Owners -/

/-- The address of the last change, or `first` where there is none. -/
def latest (changes : List (String × IPv4)) (first : IPv4) : IPv4 :=
  (changes.getLast?.map (·.2)).getD first

theorem latest_concat (changes : List (String × IPv4)) (c : String × IPv4) (first : IPv4) :
    latest (changes ++ [c]) first = c.2 := by
  rw [latest, List.getLast?_concat]
  rfl

/-- A DHCP port that had the latest address brings the one that it has now, if that is another. -/
theorem latest_of_updated {old new : Port} {networkId : String} (home : new.networkId = networkId)
    (was : old.role = .dhcp) (dhcp : new.role = .dhcp) {changes : List (String × IPv4)}
    {first : IPv4} (before : ∀ g, portAddress old = .ok (some g) → g.2 = latest changes first)
    {f : String × IPv4} (address : portAddress new = .ok (some f)) :
    f.2 = latest
      (changes ++ ((Event.portUpdated old new).readdressing? networkId).toList) first := by
  cases brings : (Event.portUpdated old new).readdressing? networkId with
  | some c =>
      obtain ⟨_, _, itself, -, -, -, brought, -⟩ := Event.readdressing?_eq_some_iff.mp brings
      cases itself
      obtain ⟨⟨f', address', ip⟩, -⟩ := broughtAddress_eq_some_iff.mp brought
      cases address.symm.trans address'
      rw [Option.toList_some, latest_concat, ip]
  | none =>
      rw [Option.toList_none, List.append_nil]
      refine Classical.byContradiction fun other => ?_
      have brought : broughtAddress old new = .ok (some f.2) := by
        refine broughtAddress_eq_some_iff.mpr ⟨⟨f, address, rfl⟩, fun g had same => other ?_⟩
        rw [← same, before g had]
      have some : (Event.portUpdated old new).readdressing? networkId = some (new.id, f.2) :=
        Event.readdressing?_eq_some_iff.mpr ⟨old, new, rfl, home, was, dhcp, brought, rfl⟩
      exact nomatch brings.symm.trans some

/-- After these events, the server of a service is reached at the address that was brought to it
last; it was made at the address `first`. Its owner, in its last version, is still a DHCP port of the
network, whose only address, if it has one, is the one that the owner itself brought last. -/
structure Owned (ds : List Delivery) (servers : List HeldServer) (x : Store.Service) (first : IPv4)
    (p : Port) (v : HeldServer) : Prop where
  version : lastVersion? ds x.portId = some p
  home : p.networkId = x.networkId
  dhcp : p.role = .dhcp
  there : v ∈ servers
  mine : v.id = x.serverId
  address : v.address? = some (latest (readdressings ds x) first)
  own : ∀ f, portAddress p = .ok (some f) →
    f.2 = latest ((readdressings ds x).filter (·.1 = x.portId)) first

/-- No server ever had a name that is still to be given. -/
def Unnamed (ds : List Delivery) (l : Ledger) : Prop :=
  ∀ d ∈ ds, ∀ k, l.serversMade < k → ∀ v ∈ d.world.controller.servers,
    v.id ≠ Controller.State.serverName k

section Owners

variable {ds : List Delivery} {d : Delivery} {l l' : Ledger} {x : Store.Service}

/-- A port is as it was, or the event changes it. -/
theorem lastVersion?_after (mirrors : d.Mirrors ds) {portId : String} {p : Port}
    (version : lastVersion? ds portId = some p) :
    (lastVersion? (ds ++ [d]) portId = some p ∧
      ∀ old new, d.event = .portUpdated old new → new.id ≠ portId) ∨
    ∃ new, d.event = .portUpdated p new ∧ new.id = portId ∧ p.networkId = new.networkId ∧
      lastVersion? (ds ++ [d]) portId = some new := by
  rw [lastVersion?_concat, version]
  obtain ⟨settings, event, w⟩ := d
  cases event with
  | portCreated q =>
      -- the port that comes is another one, since this one has come before
      have new : lastVersion? ds q.id = none := mirrors
      have other : q.id ≠ portId := by
        rintro rfl
        exact nomatch new.symm.trans version
      refine Or.inl ⟨?_, fun _ _ same => nomatch same⟩
      rw [Event.version?, Option.filter_some, if_neg (mt of_decide_eq_true other), Option.none_or]
  | portUpdated old new =>
      obtain ⟨last, home, -, -⟩ := mirrors
      by_cases same : new.id = portId
      · cases (same ▸ last).symm.trans version
        refine Or.inr ⟨new, rfl, same, home, ?_⟩
        rw [Event.version?, Option.filter_some, if_pos (decide_eq_true same), Option.some_or]
      · refine Or.inl ⟨?_, ?_⟩
        · rw [Event.version?, Option.filter_some, if_neg (mt of_decide_eq_true same),
            Option.none_or]
        · rintro _ _ itself
          cases itself
          exact same
  | portDeleted q => exact Or.inl ⟨rfl, fun _ _ same => nomatch same⟩
  | _ => exact mirrors.elim

theorem Owned.kept {first : IPv4} {p : Port} {v : HeldServer}
    (owned : Owned ds l.servers x first p v) (shows : d.world.Shows l) (mirrors : d.Mirrors ds)
    (keeps : l.Keeps l' (d.event.moved x.networkId) x)
    (remains : ∀ old new, d.event = .portUpdated old new → new.networkId = x.networkId →
      old.role = .dhcp → x.portId = old.id → new.role = .dhcp) :
    ∃ p, Owned (ds ++ [d]) l'.servers x first p (d.event.moved x.networkId v) := by
  have present : d.world.controller.servers.any (·.id = x.serverId) = true := by
    rw [shows.controller.servers_eq]
    exact List.any_eq_true.mpr ⟨v, owned.there, decide_eq_true owned.mine⟩
  have changes : readdressings (ds ++ [d]) x
      = readdressings ds x ++ (d.event.readdressing? x.networkId).toList :=
    readdressings_concat present
  have mine : (d.event.moved x.networkId v).id = x.serverId := by
    rw [Event.moved]
    split <;> exact owned.mine
  have address : (d.event.moved x.networkId v).address?
      = some (latest (readdressings (ds ++ [d]) x) first) := by
    rw [changes, Event.moved]
    cases d.event.readdressing? x.networkId with
    | none => rw [Option.toList_none, List.append_nil]; exact owned.address
    | some c =>
        rw [Option.toList_some, latest_concat]
        exact Controller.HeldServer.address?_readdressed owned.address c.2
  rcases lastVersion?_after mirrors owned.version with ⟨version, other⟩ |
    ⟨new, event, id, stays, version⟩
  -- the owner is as it was, and what another port brings is none of its own
  · have foreign : (d.event.readdressing? x.networkId).toList.filter (·.1 = x.portId) = [] := by
      refine List.filter_eq_nil_iff.mpr fun c brings own => ?_
      obtain ⟨old, new, event, -, -, -, -, id⟩ :=
        Event.readdressing?_eq_some_iff.mp (Option.mem_toList.mp brings)
      exact other old new event (id.trans (of_decide_eq_true own))
    refine ⟨p, version, owned.home, owned.dhcp, keeps.server v owned.there owned.mine, mine, address,
      fun f here => ?_⟩
    rw [owned.own f here, changes, List.filter_append, foreign, List.append_nil]
  -- the owner changes, and what it brings is its own
  · have own : (d.event.readdressing? x.networkId).toList.filter (·.1 = x.portId)
        = (d.event.readdressing? x.networkId).toList := by
      refine List.filter_eq_self.mpr fun c brings => ?_
      obtain ⟨_, _, event', -, -, -, -, id'⟩ :=
        Event.readdressing?_eq_some_iff.mp (Option.mem_toList.mp brings)
      cases event.symm.trans event'
      exact decide_eq_true (id'.symm.trans id)
    have dhcp := remains p new event (stays ▸ owned.home) owned.dhcp
      (id_of_lastVersion? owned.version).symm
    refine ⟨new, version, stays ▸ owned.home, dhcp, keeps.server v owned.there owned.mine, mine,
      address, fun f here => ?_⟩
    rw [changes, List.filter_append, own, event]
    exact latest_of_updated (stays ▸ owned.home) owned.dhcp dhcp owned.own here

theorem Owned.of_made {p : Port} (version : d.event.version? = some p) (dhcp : p.role = .dhcp)
    (madeFor : l.MadeFor l' p x) (linked : l.Linked) (shows : d.world.Shows l)
    (unnamed : Unnamed ds l) : ∃ first v, Owned (ds ++ [d]) l'.servers x first p v := by
  obtain ⟨f, address, v, hv, id, reached⟩ := madeFor.server
  have none : readdressings (ds ++ [d]) x = [] := by
    refine readdressings_new fun d' hd' u hu => ?_
    rw [madeFor.name]
    rcases List.mem_append.mp hd' with early | late
    · exact unnamed d' early _ (Nat.lt_succ_self _) u hu
    · cases List.mem_singleton.mp late
      rw [shows.controller.servers_eq] at hu
      exact linked.servers_new _ (Nat.lt_succ_self _) u hu
  refine ⟨f.2, v, ?_, madeFor.home.symm, dhcp, hv, id, ?_, ?_⟩
  · rw [lastVersion?_concat, version, Option.filter_some,
      if_pos (decide_eq_true madeFor.owner.symm), Option.some_or]
  · rw [none]
    exact reached
  · intro g here
    cases address.symm.trans here
    rw [none]
    rfl

/-- An event that is told of as it should be, where nothing fails. -/
theorem brings_event (native : d.settings.nativeDhcp = true) (calm : d.world.Calm)
    (timely : d.Timely) (mirrors : d.Mirrors ds) (shows : d.world.Shows l) (proper : l.Proper) :
    ∃ acts l', Path l acts l' ∧ d.after.Shows l' ∧ ∀ x ∈ l'.services, l.Brings l' d.event x := by
  obtain ⟨settings, event, w⟩ := d
  cases event with
  | portCreated p =>
      obtain ⟨acts, l', path, shows', -, brings⟩ :=
        brings_portCreated settings calm shows proper native p timely
      exact ⟨acts, l', path, shows', brings⟩
  | portUpdated old new =>
      obtain ⟨-, stays, known, ok⟩ := mirrors
      obtain ⟨acts, l', path, shows', -, brings⟩ :=
        brings_portUpdated settings calm shows proper native stays known timely
      refine ⟨acts, l', path, shows', brings ?_⟩
      cases answer : ((portUpdated settings old new).runIn w).1 with
      | ok u => rfl
      | error e =>
          have failed : (Delivery.mk settings (.portUpdated old new) w).answer = .error e := answer
          rw [failed] at ok
          exact nomatch ok
  | portDeleted p =>
      obtain ⟨acts, l', path, shows', -, brings⟩ := brings_portDeleted calm shows proper p timely
      exact ⟨acts, l', path, shows', brings⟩
  | _ => exact mirrors.elim

/-- By induction on the run: every service has an owner whose address its server was given. -/
theorem owned_of_run {w : World}
    (run : Run (fun d => d.settings.nativeDhcp = true ∧ d.world.Calm) ds w)
    (mirrored : Mirrored ds) : ∃ l, w.Shows l ∧ l.Proper ∧ Unnamed ds l ∧
      ∀ x ∈ l.services, ∃ first p v, Owned ds l.servers x first p v := by
  induction run with
  | start auditing clock =>
      exact ⟨.empty, Ledger.shows_empty auditing clock, Ledger.proper_empty,
        fun _ h => (nomatch h), fun _ h => (nomatch h)⟩
  | change run untouched ih =>
      obtain ⟨l, shows, proper, unnamed, owned⟩ := ih mirrored
      exact ⟨_, Ledger.shows_mapped shows untouched, proper.mapped _ _, unnamed, owned⟩
  | @event ds d run timely fits ih =>
      obtain ⟨mirrored, mirrors⟩ := mirrored_concat_iff.mp mirrored
      obtain ⟨l, shows, proper, unnamed, owned⟩ := ih mirrored
      obtain ⟨acts, l', path, shows', brings⟩ :=
        brings_event fits.1 fits.2 timely mirrors shows proper
      refine ⟨l', shows', path.proper proper, ?_, fun x hx => ?_⟩
      · intro e he k later v hv
        -- a name still to be given is given to no server by this event either
        have before : l.serversMade < k := Nat.lt_of_le_of_lt path.serversMade_le later
        rcases List.mem_append.mp he with early | late
        · exact unnamed e early k before v hv
        · cases List.mem_singleton.mp late
          rw [shows.controller.servers_eq] at hv
          exact proper.servers_new k before v hv
      · cases brings x hx with
        | kept keeps remains =>
            obtain ⟨first, p, v, owned⟩ := owned x keeps.old
            obtain ⟨p', owned'⟩ := owned.kept shows mirrors keeps remains
            exact ⟨first, p', _, owned'⟩
        | made version dhcp madeFor =>
            obtain ⟨first, v, owned⟩ :=
              Owned.of_made version dhcp madeFor proper.toLinked shows unnamed
            exact ⟨first, _, v, owned⟩

/-- Where nothing fails and the events of ports come in the order of their histories, the owner of
every service is a DHCP port; and if this port has one address now, the server of the service is
reached there if and only if the last change of address that the server has followed was the
owner's, or came to the same address. -/
theorem server_keeps_address_iff {w : World}
    (run : Run (fun d => d.settings.nativeDhcp = true ∧ d.world.Calm) ds w)
    (mirrored : Mirrored ds) : ∃ services rows, w.store.Holds services rows ∧
      ∀ x ∈ services, ∃ p v, lastVersion? ds x.portId = some p ∧ p.role = .dhcp ∧
        Table.find? HeldServer.id x.serverId w.controller.servers = some v ∧
        ∀ f, p.ipv4s = [f] →
          (v.address? = some f.2 ↔ ∀ c ∈ (readdressings ds x).getLast?, c.1 = p.id ∨ c.2 = f.2) := by
  obtain ⟨l, shows, proper, -, owned⟩ := owned_of_run run mirrored
  refine ⟨l.services, l.rows, shows.store, fun x hx => ?_⟩
  obtain ⟨first, p, v, owned⟩ := owned x hx
  refine ⟨p, v, owned.version, owned.dhcp, ?_, fun f only => ?_⟩
  · rw [shows.controller.servers_eq, ← owned.mine]
    exact proper.servers_keyed.find? owned.there
  have own := owned.own f (portAddress_eq_some_iff.mpr only)
  have id := id_of_lastVersion? owned.version
  rw [owned.address, own, Option.some_inj]
  rcases List.eq_nil_or_concat (readdressings ds x) with none | ⟨before, c, some⟩
  · simp [none, latest]
  · rw [List.concat_eq_append] at some
    rw [some, latest_concat, List.getLast?_concat, id]
    simp only [Option.mem_some_iff, forall_eq']
    refine ⟨Or.inr, fun h => h.elim (fun mine => ?_) fun same => same⟩
    rw [List.filter_append, List.filter_cons, if_pos (decide_eq_true mine), List.filter_nil,
      latest_concat]

end Owners

/-! ## Two DHCP ports on one network -/

namespace Sample

/-- A second DHCP port of the network. -/
def secondPort (address : IPv4) : Port :=
  ⟨"second-port", "net", "", "fa:16:3e:00:00:03", "network:dhcp", [⟨"subnet", .v4 address⟩]⟩

/-- The second DHCP port comes when the server is there. -/
def joined : Delivery := ⟨settings, .portCreated (secondPort ⟨10, 0, 0, 3⟩), served.after⟩

/-- A port changes, and the catalog has the change. -/
def changed (old new : Port) (w : World) : Delivery :=
  ⟨settings, .portUpdated old new, { w with catalog := { catalog with ports := [new] } }⟩

/-- The second port changes its address. -/
def strayed : Delivery :=
  changed (secondPort ⟨10, 0, 0, 3⟩) (secondPort ⟨10, 0, 0, 4⟩) joined.after

/-- The port that the server was made for changes its address then. -/
def returned : Delivery :=
  changed dhcpPort { dhcpPort with fixedIps := [⟨"subnet", .v4 ⟨10, 0, 0, 9⟩⟩] } strayed.after

theorem calm_joined : joined.after.Calm :=
  (calm.follows follows_served).follows (Handler.follows_runIn _ _)

theorem calm_strayed : strayed.after.Calm :=
  World.Calm.follows (w := strayed.world)
    ⟨calm_joined.calls, calm_joined.queries, calm_joined.addresses, calm_joined.deletes⟩
    (Handler.follows_runIn _ _)

theorem owners_run :
    Run (fun d => d.settings.nativeDhcp = true ∧ d.world.Calm) [served, joined, strayed]
      strayed.after := by
  have timely : served.Timely ∧ joined.Timely ∧ strayed.Timely := by
    show Clock.Legible _ ∧ Clock.Legible _ ∧ Clock.Legible _
    decide +kernel
  have start : Run (fun d => d.settings.nativeDhcp = true ∧ d.world.Calm) [] world :=
    .change (.start false Clock.counting) ⟨rfl, rfl, rfl, rfl, rfl, rfl⟩
  have first := Run.event served start timely.1 ⟨rfl, calm⟩
  have second := Run.event joined first timely.2.1 ⟨rfl, calm.follows follows_served⟩
  exact .event strayed (.change second ⟨rfl, rfl, rfl, rfl, rfl, rfl⟩) timely.2.2
    ⟨rfl, calm_joined.calls, calm_joined.queries, calm_joined.addresses, calm_joined.deletes⟩

theorem owners_mirrored : Mirrored [served, joined, strayed] := by
  have first : served.Mirrors [] := rfl
  have second : joined.Mirrors [served] := by
    show lastVersion? _ _ = none
    decide
  have third : strayed.Mirrors [served, joined] :=
    ⟨by decide, rfl, rfl, by decide +kernel⟩
  exact mirrored_concat_iff.mpr ⟨mirrored_concat_iff.mpr
    ⟨mirrored_concat_iff.mpr ⟨mirrored_nil, first⟩, second⟩, third⟩

end Sample

/-- The owner takes its server back when it changes its own address. -/
theorem owner_takes_server_back :
    Sample.returned.after.store.services.map List.length = some 1 ∧
    ∃ services rows, Sample.returned.after.store.Holds services rows ∧ ∀ x ∈ services,
      ∃ v, Table.find? HeldServer.id x.serverId Sample.returned.after.controller.servers = some v ∧
        v.address? = some ⟨10, 0, 0, 9⟩ := by
  have calm := Sample.calm_strayed
  have timely : Sample.returned.Timely := by
    show Clock.Legible _
    decide +kernel
  have run := Run.event Sample.returned (.change Sample.owners_run ⟨rfl, rfl, rfl, rfl, rfl, rfl⟩)
    timely ⟨rfl, calm.calls, calm.queries, calm.addresses, calm.deletes⟩
  have mirrors : Sample.returned.Mirrors [Sample.served, Sample.joined, Sample.strayed] :=
    ⟨by decide, rfl, rfl, by decide +kernel⟩
  obtain ⟨services, rows, holds, all⟩ := server_keeps_address_iff run
    (mirrored_concat_iff.mpr ⟨Sample.owners_mirrored, mirrors⟩)
  refine ⟨by decide +kernel, services, rows, holds, fun x hx => ?_⟩
  have kept : Sample.returned.after.store.services.map
      (·.map fun x => (x.networkId, x.portId, x.serverId))
        = some [("net", "dhcp-port", "dhcp-1")] := by
    decide +kernel
  rw [holds.services_eq, Option.map_some, List.map_map] at kept
  have this : (x.networkId, x.portId, x.serverId) ∈ [("net", "dhcp-port", "dhcp-1")] :=
    Option.some.inj kept ▸ List.mem_map.mpr ⟨x, hx, rfl⟩
  obtain ⟨networkId, portId, serverId, time⟩ := x
  cases List.mem_singleton.mp this
  obtain ⟨p, v, version, -, found, keeps⟩ := all _ hx
  have now : lastVersion? ([Sample.served, Sample.joined, Sample.strayed] ++ [Sample.returned])
      "dhcp-port" = some { Sample.dhcpPort with fixedIps := [⟨"subnet", .v4 ⟨10, 0, 0, 9⟩⟩] } := by
    decide
  cases now.symm.trans version
  refine ⟨v, found, (keeps ("subnet", ⟨10, 0, 0, 9⟩) rfl).mpr fun c last => ?_⟩
  have there : Sample.returned.world.controller.servers.any (·.id = "dhcp-1") = true := by
    decide +kernel
  have brings : Sample.returned.event.readdressing? "net"
      = some ("dhcp-port", ⟨10, 0, 0, 9⟩) := by decide
  rw [readdressings_concat there, brings, Option.toList_some, List.getLast?_concat] at last
  cases last
  exact Or.inl rfl

/-- The server that was made for one DHCP port is reached at the address of another one, after this
one has changed its address. -/
theorem second_port_takes_server :
    Run (fun d => d.settings.nativeDhcp = true ∧ d.world.Calm)
      [Sample.served, Sample.joined, Sample.strayed] Sample.strayed.after ∧
    Mirrored [Sample.served, Sample.joined, Sample.strayed] ∧
    Sample.strayed.after.store.services.map (·.map fun x => (x.portId, x.serverId))
      = some [("dhcp-port", "dhcp-1")] ∧
    lastVersion? [Sample.served, Sample.joined, Sample.strayed] "dhcp-port"
      = some Sample.dhcpPort ∧
    Sample.dhcpPort.role = .dhcp ∧ Sample.dhcpPort.ipv4s = [("subnet", ⟨10, 0, 0, 2⟩)] ∧
    (Table.find? HeldServer.id "dhcp-1" Sample.strayed.after.controller.servers).bind (·.address?)
      = some ⟨10, 0, 0, 4⟩ :=
  ⟨Sample.owners_run, Sample.owners_mirrored, by decide +kernel, by decide, by decide, by decide,
    by decide +kernel⟩

end Overlay.Dhcp
