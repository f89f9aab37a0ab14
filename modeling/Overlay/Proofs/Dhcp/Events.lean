import Overlay.Dhcp.Event
import Overlay.Proofs.Dhcp.Resync

/-!
# What events do

Every event takes the ledger along a path on which things go before others are made and which ends
where a handler stops, and gives addresses only to ports that the event tells of or that the catalog
has. This is all that theorems about runs use of the handlers.

Main statement: `goes_event`.
-/

namespace Overlay.Dhcp

open Overlay.Handler

variable {w : World} {l : Ledger}

/-! ## What comes of parts of events -/

/-- An act sourced in some ports is sourced in more. -/
theorem Act.Sourced.mono {ports more : List Port} {switch? : String → Option String}
    (sub : ∀ p ∈ ports, p ∈ more) {a : Act} (h : a.Sourced ports switch?) :
    a.Sourced more switch? := by
  cases a with
  | bind x portId d time missing => exact h.imp fun p hp => ⟨sub p hp.1, hp.2⟩
  | leak x portId d e => exact h.imp fun p hp => ⟨sub p hp.1, hp.2⟩
  | move b d time => exact h.imp fun p hp => ⟨sub p hp.1, hp.2⟩
  | clash b c d => exact h.imp fun p hp => ⟨sub p hp.1, hp.2⟩
  | serve _ _ _ _ => trivial
  | readdress _ _ => trivial
  | retire _ _ => trivial
  | release _ _ => trivial
  | stay _ _ => trivial

section Parts

variable {α : Type} {r : Except Error α} {acts : List Act} {ports : List Port}

/-- Changes of some ports are changes of more. -/
theorem Changed.mono {more : List Port} (sub : ∀ p ∈ ports, p ∈ more)
    (h : Changed ports l r acts) : Changed more l r acts :=
  { h with sourced := fun a ha => (h.sourced a ha).mono sub }

/-- Taking down a server does not build. -/
theorem TornDown.not_builds {services : List Store.Service} {networkId : String}
    {owner : Option String} {r : Except Error Unit}
    (h : TornDown w services networkId owner r acts) : ∀ a ∈ acts, ¬ a.Builds := by
  rcases h with ⟨rfl, -⟩ | ⟨x, m, -, -, -, rfl⟩
  · exact fun a ha => nomatch ha
  · exact fun a ha => List.mem_singleton.mp ha ▸ id

/-- Taking down a server is in order, whatever ports the event tells of. -/
theorem TornDown.changed {services : List Store.Service} {networkId : String}
    {owner : Option String} {r : Except Error Unit}
    (h : TornDown w services networkId owner r acts) (ports : List Port) (l : Ledger) :
    Changed ports l r acts := by
  rcases h with ⟨rfl, -⟩ | ⟨x, m, -, -, -, rfl⟩
  · exact .nothing ports l r
  · exact .single trivial fun _ _ => id

/-- The server of a DHCP port's network is made, if any. -/
theorem goes_createServiceFor_builds (shows : w.Shows l) (linked : l.Linked) (settings : Settings)
    (p : Port) (ports : List Port) :
    (createServiceFor settings p).Goes w l fun _ acts _ =>
      ∀ a ∈ acts, a.Builds ∧ a.Sourced ports l.switch? := by
  refine Goes.mono (goes_createServiceFor shows linked settings p) ?_
  rintro r acts l' - (⟨rfl, -⟩ | ⟨f, -, -, ⟨rfl, -⟩ | ⟨config, time, -, rfl, -⟩⟩)
  · exact fun a ha => nomatch ha
  · exact fun a ha => nomatch ha
  · exact fun a ha => List.mem_singleton.mp ha ▸ ⟨trivial, trivial⟩

/-- Moving a server only builds, whatever ports the event tells of. -/
theorem goes_moveServer_builds (shows : w.Shows l) (linked : l.Linked) (old new : Port)
    (ports : List Port) :
    (moveServer old new).Goes w l fun _ acts _ =>
      ∀ a ∈ acts, a.Builds ∧ a.Sourced ports l.switch? := by
  refine Goes.mono (goes_moveServer shows linked old new) ?_
  rintro r acts l' - (⟨rfl, -⟩ | ⟨ip, x, -, -, -, rfl⟩)
  · exact fun a ha => nomatch ha
  · exact fun a ha => List.mem_singleton.mp ha ▸ ⟨trivial, trivial⟩

end Parts

/-! ## The rows of a port -/

section Rows

variable (l) (portId : String)

/-- The rows of a port have keys of their own. -/
theorem keyed_ofPort (linked : l.Linked) :
    Table.Keyed Store.Binding.key (Store.ofPort portId l.rows) :=
  Table.Keyed.perm (linked.rows_keyed.sublist (List.filter_sublist.map _))
    (List.mergeSort_perm _ _).symm

/-- The rows of a port are all there. -/
theorem complete_ofPort : ∀ b ∈ Store.ofPort portId l.rows, ∀ c ∈ l.rows, c.portId = b.portId →
    c ∈ Store.ofPort portId l.rows := by
  intro b hb c hc same
  exact Store.mem_ofPort.mpr ⟨hc, same.trans (Store.mem_ofPort.mp hb).2⟩

/-- Rows without a wish are deleted. -/
theorem edits_dropped (rows : List Store.Binding) (t : Template) :
    edits (dropped rows) t = rows.map .delete := by
  rw [edits, dropped, List.map_map]
  refine List.filter_eq_self.mpr fun c hc => ?_
  obtain ⟨b, -, rfl⟩ := List.mem_map.mp hc
  rfl

/-- All rows of a port may be dropped. -/
theorem ready_dropped (p : Port) (linked : l.Linked) :
    Ready p l (dropped (Store.ofPort p.id l.rows)) where
  rows f hf := by
    obtain ⟨b, hb, rfl⟩ := List.mem_map.mp hf
    exact Store.mem_ofPort.mp hb
  once := by
    show ((dropped (Store.ofPort p.id l.rows)).map (Store.Binding.key ∘ Prod.fst)).Nodup
    rw [← List.map_map, bindings_dropped]
    exact keyed_ofPort l p.id linked
  own b d h := absurd h not_mem_dropped
  apart _ := by
    rw [addresses_dropped]
    exact ⟨List.nodup_nil, fun b d h => absurd h not_mem_dropped⟩

/-- Letting go rows one by one is carrying out a plan without addresses. -/
theorem forM_releaseAddress (p : Port) (rows : List Store.Binding) :
    rows.forM (releaseAddress p.id)
      = (edits (dropped rows) (.ofSettings .default)).forM (applyChange .default p.id none) := by
  rw [edits_dropped]
  have changes : (rows.map Change.delete).forM (applyChange .default p.id none)
      = rows.forM (releaseAddress p.id) := List.forM_map
  exact changes.symm

/-- All rows of a port are let go one by one. -/
theorem goes_releaseRows (p : Port) (shows : w.Shows l) (linked : l.Linked) :
    ((Store.ofPort p.id l.rows).forM (releaseAddress p.id)).Goes w l fun r acts _ =>
      Edited p l r acts := by
  rw [forM_releaseAddress]
  exact goes_edits _ _ _ _ shows linked (ready_dropped l p linked)

end Rows

/-! ## All events -/

section Events

variable (settings : Settings) (shows : w.Shows l)

include shows

/-- A new network changes neither services nor rows. -/
theorem goes_networkCreated (n : Network) :
    (networkCreated settings n).Goes w l fun _ acts _ => acts = [] := by
  refine Goes.ite (fun _ => Goes.pure shows rfl) fun _ => ?_
  refine Goes.quiet (quiet_setting shows _) ?_ fun e _ => rfl
  rintro proxyId w1 - shows1 -
  refine Goes.locked ?_
  refine Goes.quiet (quiet_getSwitch shows1 n.id) ?_ fun e _ => rfl
  rintro switch w2 - shows2 -
  cases switch with
  | none => exact Goes.throw shows2 rfl
  | some switchId =>
      refine Goes.quiet (quiet_aside shows2 rfl (fun _ => ⟨_, rfl⟩) (fun _ => rfl) (fun _ => rfl)
        (fun _ => rfl) fun _ => rfl) ?_ fun e _ => rfl
      rintro port w3 - shows3 -
      refine Goes.quiet (quiet_report shows3 _) ?_ fun e _ => rfl
      rintro u w4 - shows4 -
      exact Goes.pure shows4 rfl

/-- The answer to the check that no other subnet of the network is served by DHCP. -/
def onlyDhcpSubnet (c : Catalog) (s : Subnet) : Except Error Unit :=
  if !settings.nativeDhcp then .ok ()
  else
    match (c.subnets.filter (·.networkId = s.networkId)).find? fun other =>
      other.id ≠ s.id && other.servesDhcp with
    | some other => .error (.invalidInput (.secondDhcpSubnet s.id s.networkId other.id))
    | none => .ok ()

/-- The check for another served subnet changes nothing, and says what the catalog says. -/
theorem goes_ensureOnlyDhcpSubnet (s : Subnet) :
    (ensureOnlyDhcpSubnet settings s).Goes w l fun r acts _ =>
      acts = [] ∧ (w.Calm → r = onlyDhcpSubnet settings w.catalog s) := by
  rw [onlyDhcpSubnet]
  refine Goes.ite (fun off => Goes.pure shows ⟨rfl, fun _ => (if_pos off).symm⟩) fun on => ?_
  refine Goes.quiet (quiet_query shows (.subnetsOf s.networkId)) ?_
    fun e rough => ⟨rfl, fun calm => absurd calm rough⟩
  rintro subnets w1 - shows1 answer
  rw [if_neg on, show subnets = w.catalog.subnets.filter (·.networkId = s.networkId) from answer]
  cases (w.catalog.subnets.filter (·.networkId = s.networkId)).find? fun other =>
      other.id ≠ s.id && other.servesDhcp with
  | some other => exact Goes.throw shows1 ⟨rfl, fun _ => rfl⟩
  | none => exact Goes.pure shows1 ⟨rfl, fun _ => rfl⟩

section Linked

variable (linked : l.Linked)

include linked

/-- A port that comes changes what is its own. -/
theorem goes_portCreated (p : Port) :
    (portCreated settings p).Goes w l fun r acts _ => Changed [p] l r acts := by
  refine Goes.ite (fun _ => ?_) fun _ => Goes.pure shows (.nothing _ _ _)
  refine Goes.locked (Goes.locked ?_)
  cases p.role with
  | dhcp =>
      refine Goes.mono (goes_createServiceFor_builds shows linked settings p [p]) ?_
      exact fun r acts l' _ builds => .of_builds builds
  | compute =>
      exact goes_converge settings shows linked (fun b hb => nomatch hb) (Table.keyed_nil _)
        fun b hb => nomatch hb
  | other => exact Goes.pure shows (.nothing _ _ _)

/-- What is left to do for a port that has changed, once its network's server is gone if need be. -/
theorem goes_follow (old new : Port) : Goes (do
    let current ← execute (.bindingsOf new.id)
    converge settings new current
    if new.role = .dhcp then
      if old.role = .dhcp then moveServer old new else createServiceFor settings new) w l
      fun r acts _ => Changed [old, new] l r acts := by
  refine Goes.quiet (quiet_bindingsOf shows new.id) ?_ fun e none => nomatch none
  rintro current w1 - shows1 answer
  rw [Except.ok.inj answer]
  have sub : ∀ p ∈ [new], p ∈ [old, new] := fun p hp => List.mem_cons_of_mem _ hp
  refine Goes.bind linked (goes_converge settings shows1 linked (fun b => Store.mem_ofPort.mp)
    (keyed_ofPort l new.id linked) (complete_ofPort l new.id)) ?_ ?_
  · rintro u acts l' w2 - shows2 linked2 path changed
    have made : ∀ (r : Except Error Unit) (more : List Act),
        (∀ a ∈ more, a.Builds ∧ a.Sourced [old, new] l'.switch?) →
        Changed [old, new] l r (acts ++ more) := fun r more builds =>
      (changed.mono sub).append path (.of_builds builds) (Or.inr fun a ha => (builds a ha).1)
    refine Goes.ite (fun _ => Goes.ite (fun _ => ?_) fun _ => ?_) fun _ => ?_
    · refine Goes.mono (goes_moveServer_builds shows2 linked2 old new [old, new]) ?_
      exact fun r more l'' _ builds => made r more builds
    · refine Goes.mono (goes_createServiceFor_builds shows2 linked2 settings new [old, new]) ?_
      exact fun r more l'' _ builds => made r more builds
    · exact Goes.pure shows2 (made _ [] fun a ha => nomatch ha)
  · exact fun e acts l' _ changed => changed.mono sub

end Linked

variable (proper : l.Proper)

include proper

/-- A port that changes changes what is its own, by either version. -/
theorem goes_portUpdated (old new : Port) :
    (portUpdated settings old new).Goes w l fun r acts _ => Changed [old, new] l r acts := by
  refine Goes.ite (fun _ => Goes.pure shows (.nothing _ _ _)) fun _ => ?_
  refine Goes.locked (Goes.locked ?_)
  refine Goes.quiet (quiet_query shows (.port new.id)) ?_ fun e _ => .nothing _ _ _
  rintro port w1 - shows1 -
  cases port with
  | none => exact Goes.pure shows1 (.nothing _ _ _)
  | some known =>
      refine Goes.ite (fun _ => ?_) fun _ => ?_
      · refine Goes.bind proper (goes_teardown shows1 proper old.networkId (some old.id)) ?_ ?_
        · rintro u acts l' w2 - shows2 linked2 path torn
          refine Goes.mono (goes_follow settings shows2 linked2 old new) ?_
          exact fun r more l'' _ rest =>
            (torn.changed _ _).append path rest (Or.inl torn.not_builds)
        · exact fun e acts l' _ torn => torn.changed _ _
      · exact goes_follow settings shows1 proper old new

/-- A port that goes changes what is its own. -/
theorem goes_portDeleted (p : Port) :
    (portDeleted p).Goes w l fun r acts _ => Changed [p] l r acts := by
  refine Goes.locked (Goes.locked ?_)
  refine Goes.quiet (quiet_bindingsOf shows p.id) ?_ fun e none => nomatch none
  rintro rows w1 - shows1 answer
  rw [Except.ok.inj answer]
  refine Goes.bind proper (goes_releaseRows l p shows1 proper) ?_
    fun e acts l' _ edited => edited.toChanged
  rintro u acts l' w2 - shows2 - path edited
  refine Goes.ite (fun _ => ?_) fun _ => ?_
  · refine Goes.mono (goes_teardown shows2 (path.proper proper) p.networkId (some p.id)) ?_
    exact fun r more l'' _ torn => edited.toChanged.append path (torn.changed _ _)
      (Or.inl fun a ha => (edited.onRow a ha).not_builds)
  · refine Goes.pure shows2 ?_
    rw [List.append_nil]
    exact edited.toChanged

end Events

/-- The network that an event is about. A resync is about all of them. -/
def Event.networkId? : Event → Option String
  | .networkCreated n => some n.id
  | .networkDeleted networkId => some networkId
  | .subnetCreated s => some s.networkId
  | .subnetUpdated _ new => some new.networkId
  | .subnetDeleted s => some s.networkId
  | .portCreated p => some p.networkId
  | .portUpdated _ new => some new.networkId
  | .portDeleted p => some p.networkId
  | .resync _ => none

/-- The ports that an event tells of. -/
def Event.ports : Event → List Port
  | .portCreated p => [p]
  | .portUpdated old new => [old, new]
  | .portDeleted p => [p]
  | .networkCreated _ => []
  | .networkDeleted _ => []
  | .subnetCreated _ => []
  | .subnetUpdated _ _ => []
  | .subnetDeleted _ => []
  | .resync _ => []

/-- What an event does: things go first and others are made then, up to where a handler stops, and
only ports that the event tells of or that the catalog has are given addresses. -/
theorem goes_event (settings : Settings) (shows : w.Shows l) (proper : l.Proper) (e : Event) :
    (e.handler settings).Goes w l fun r acts _ =>
      Changed (e.ports ++ w.catalog.ports) l r acts := by
  have own : ∀ p ∈ e.ports, p ∈ e.ports ++ w.catalog.ports := fun p => List.mem_append_left _
  have still : ∀ {α : Type} (r : Except Error α) (acts : List Act), acts = [] →
      Changed (e.ports ++ w.catalog.ports) l r acts := fun r acts h => h ▸ .nothing _ l r
  have torn : ∀ (networkId : String), (teardown networkId none).Goes w l fun r acts _ =>
      Changed (e.ports ++ w.catalog.ports) l r acts := fun networkId =>
    Goes.mono (goes_teardown shows proper networkId none) fun r acts l' _ h => h.changed _ l
  cases e with
  | networkCreated n =>
      exact Goes.mono (goes_networkCreated settings shows n) fun r acts l' _ => still r acts
  | networkDeleted networkId => exact Goes.locked (torn networkId)
  | subnetCreated s =>
      refine Goes.ite (fun _ => Goes.locked ?_) fun _ => Goes.pure shows (still _ _ rfl)
      exact Goes.mono (goes_ensureOnlyDhcpSubnet settings shows s)
        fun r acts l' _ h => still r acts h.1
  | subnetUpdated old new =>
      refine Goes.locked ?_
      split
      · exact Goes.mono (goes_ensureOnlyDhcpSubnet settings shows new)
          fun r acts l' _ h => still r acts h.1
      · exact torn new.networkId
      · exact Goes.pure shows (still _ _ rfl)
  | subnetDeleted s =>
      exact Goes.ite (fun _ => Goes.locked (torn s.networkId)) fun _ =>
        Goes.pure shows (still _ _ rfl)
  | portCreated p =>
      exact Goes.mono (goes_portCreated settings shows proper p) fun r acts l' _ h => h.mono own
  | portUpdated old new =>
      exact Goes.mono (goes_portUpdated settings shows proper old new)
        fun r acts l' _ h => h.mono own
  | portDeleted p =>
      exact Goes.mono (goes_portDeleted shows proper p) fun r acts l' _ h => h.mono own
  | resync profileId =>
      exact Goes.mono (goes_resync shows proper settings profileId)
        fun r acts l' _ rebuilt => .of_builds rebuilt.sourced

end Overlay.Dhcp
