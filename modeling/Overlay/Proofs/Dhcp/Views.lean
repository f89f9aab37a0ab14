import Overlay.Proofs.Dhcp.Calm

/-!
# What events do when nothing fails

Where nothing fails, what an event does and what it answers depends on little: on the settings and
the catalog, on the service of its network, on the rows of its port and on the mappings. This is its
*view* of the ledger. `Event.effect?` says what comes of every event but a rebuilding of everything,
as a function of the view.

Main statements: `comes_event`, `of_event`.
-/

namespace Overlay.Dhcp

open Overlay.Handler

variable {w : World} {l : Ledger}

/-- What an event looks at. -/
structure View where
  /-- The service of the network. -/
  service : Option Store.Service
  /-- The rows of the port, if the event is about one. -/
  rows : List Store.Binding
  networks : Option (List Store.NetworkMapping)
  ports : Option (List Store.PortMapping)

/-- What an event about this network, and about this port if any, looks at. -/
def Ledger.view (l : Ledger) (networkId : String) (portId? : Option String) : View where
  service := Table.find? Store.Service.networkId networkId l.services
  rows := (portId?.map fun portId => Store.ofPort portId l.rows).getD []
  networks := l.networks
  ports := l.ports

/-- The view once the server is taken down, if it was made for this port. -/
def View.without (v : View) (owner : String) : View :=
  if v.service.any (·.portId = owner) then { v with service := none, rows := [] } else v

/-- The port whose rows an event looks at. -/
def Event.portId? : Event → Option String
  | .portCreated p => some p.id
  | .portUpdated _ new => some new.id
  | .portDeleted p => some p.id
  | .networkCreated _ => none
  | .networkDeleted _ => none
  | .subnetCreated _ => none
  | .subnetUpdated _ _ => none
  | .subnetDeleted _ => none
  | .resync _ => none

section Effects

variable (settings : Settings) (c : Catalog) (v : View)

/-- A port comes. -/
def coming (p : Port) : Effect :=
  match p.role with
  | .dhcp => serverMade settings c p v.service v.ports
  | .compute => converged settings c p v.service (v.rows.map (·.address)) []
  | .other => .done []

/-- Bindings and server follow a port that has changed. -/
def following (old new : Port) : Effect :=
  (converged settings c new v.service (v.rows.map (·.address)) v.rows).andThen
    (if new.role = .dhcp then
      if old.role = .dhcp then serverMoved old new v.service
      else serverMade settings c new v.service v.ports
    else .done [])

/-- A port changes. -/
def changing (old new : Port) : Effect :=
  match Table.find? Port.id new.id c.ports with
  | none => .done []
  | some _ =>
    if old.role = .dhcp ∧ new.role ≠ .dhcp then
      (tornDown v.service (some old.id)).andThen (following settings c (v.without old.id) old new)
    else following settings c v old new

/-- A port goes. -/
def going (p : Port) : Effect :=
  (Effect.done (v.rows.map .release)).andThen
    (if p.role = .dhcp then tornDown v.service (some p.id) else .done [])

/-- What comes of an event, unless it is a rebuilding of everything. -/
def Event.effect? : Event → Option Effect
  | .networkCreated n => some ⟨(proxySwitch settings v.networks n).map fun _ => (), []⟩
  | .networkDeleted _ => some (tornDown v.service none)
  | .subnetCreated s =>
    some (if s.servesDhcp then ⟨onlyDhcpSubnet settings c s, []⟩ else .done [])
  | .subnetUpdated old new =>
    some (match old.servesDhcp, new.servesDhcp with
      | false, true => ⟨onlyDhcpSubnet settings c new, []⟩
      | true, false => tornDown v.service none
      | _, _ => .done [])
  | .subnetDeleted s => some (if s.servesDhcp then tornDown v.service none else .done [])
  | .portCreated p => some (if settings.nativeDhcp then coming settings c v p else .done [])
  | .portUpdated old new =>
    some (if !settings.nativeDhcp || sameBindings old new then .done []
      else changing settings c v old new)
  | .portDeleted p => some (going v p)
  | .resync _ => none

end Effects

/-- The port's rows lie under the server of this network. -/
def Ledger.Lodged (l : Ledger) (networkId portId : String) : Prop :=
  ∀ b ∈ l.rows, b.portId = portId →
    ∃ x ∈ l.services, x.networkId = networkId ∧ x.serverId = b.serverId

/-- A port that changes stays on its network. -/
def Event.Stays : Event → Prop
  | .portUpdated old new => old.networkId = new.networkId
  | _ => True

/-- Nothing that the view shows of a port is left once its network's server is taken down. -/
theorem view_retire (linked : l.Linked) {x : Store.Service} (hx : x ∈ l.services) {portId : String}
    (lodged : l.Lodged x.networkId portId) :
    ((Act.retire x none).apply l).view x.networkId (some portId)
      = { l.view x.networkId (some portId) with service := none, rows := [] } := by
  have services : Table.find? Store.Service.networkId x.networkId
      ((Act.retire x none).apply l).services = none :=
    Table.find?_eq_none_iff.mpr fun y hy => (Table.mem_remove.mp hy).2
  have rows : Store.ofPort portId ((Act.retire x none).apply l).rows = [] := by
    refine List.eq_nil_iff_forall_not_mem.mpr fun b hb => ?_
    obtain ⟨hb, port⟩ := Store.mem_ofPort.mp hb
    obtain ⟨hb, other⟩ := Table.mem_remove.mp hb
    obtain ⟨y, hy, network, server⟩ := lodged b hb port
    exact other (server ▸ congrArg _ (linked.services_keyed.eq_of_key hy hx network))
  rw [Ledger.view, services, Option.map_some, Option.getD_some, rows]
  rfl

/-- The view once the server of the network is taken down, if it is. -/
theorem view_tornDown (linked : l.Linked) {networkId portId owner : String}
    (lodged : l.Lodged networkId portId) {acts : List Act} {l' : Ledger} (path : Path l acts l')
    (deeds : acts.map Act.deed? = (tornDown (l.view networkId (some portId)).service
      (some owner)).deeds.map some) :
    l'.view networkId (some portId) = (l.view networkId (some portId)).without owner := by
  have untouched : acts.map Act.deed? = [] → l' = l := by
    intro nothing
    cases List.map_eq_nil_iff.mp nothing
    cases path
    rfl
  rw [View.without]
  cases found : (l.view networkId (some portId)).service with
  | none =>
      rw [found] at deeds
      rw [untouched deeds]
      rfl
  | some x =>
      obtain ⟨hx, rfl⟩ := Table.mem_of_find? found
      rw [found, tornDown] at deeds
      by_cases mine : x.portId = owner
      · rw [if_neg (by simpa using mine.symm)] at deeds
        obtain ⟨a, rfl, did, rfl⟩ := path.of_deed deeds
        cases Act.of_deed? did
        rw [if_pos (by simpa using mine)]
        exact view_retire linked hx lodged
      · rw [if_pos (by simpa using Ne.symm mine)] at deeds
        rw [untouched deeds, if_neg (by simpa using mine)]

/-- Dropping rows releases all of them. -/
theorem carriedOut_dropped (p : Port) (taken : List IPv4) (rows : List Store.Binding)
    (t : Template) :
    carriedOut p none taken (edits (dropped rows) t) = .done (rows.map .release) := by
  rw [edits_dropped]
  induction rows generalizing taken with
  | nil => rfl
  | cons b rest ih =>
      rw [List.map_cons, carriedOut, ih]
      rfl

section Events

variable (settings : Settings) (calm : w.Calm) (shows : w.Shows l)

include calm shows

/-- A new network comes to its proxy's switch port, and to nothing else. -/
theorem comes_networkCreated (n : Network) :
    (networkCreated settings n).Comes w l
      ⟨(proxySwitch settings l.networks n).map fun _ => (), []⟩ := by
  intro legible
  obtain ⟨acts, l', path, shows', accounts, rfl⟩ := goes_networkCreated settings shows n legible
  obtain ⟨answer, -⟩ := ends_networkCreated settings calm n legible
  refine ⟨[], l', path, shows', accounts, ?_, rfl⟩
  rw [answer, shows.networks]
  cases proxySwitch settings l.networks n <;> rfl

/-- The check for another served subnet comes to its answer. -/
theorem comes_ensureOnlyDhcpSubnet (s : Subnet) :
    (ensureOnlyDhcpSubnet settings s).Comes w l ⟨onlyDhcpSubnet settings w.catalog s, []⟩ := by
  refine Goes.mono (goes_ensureOnlyDhcpSubnet settings shows s) ?_
  rintro r acts l' - ⟨rfl, answer⟩
  rw [answer calm]
  exact ⟨by cases onlyDhcpSubnet settings w.catalog s <;> rfl, rfl⟩

section Linked

variable (linked : l.Linked)

include linked

/-- A port that comes, by what is seen of its network. -/
theorem comes_portCreated (p : Port) :
    (portCreated settings p).Comes w l (if settings.nativeDhcp then
      coming settings w.catalog (l.view p.networkId (some p.id)) p else .done []) := by
  rw [portCreated]
  split
  · refine Goes.locked (Goes.locked ?_)
    rw [coming.eq_def]
    cases p.role with
    | dhcp => exact comes_createServiceFor settings calm shows linked p
    | compute =>
        have none : ∀ b ∈ ([] : List Store.Binding), False := fun b hb => nomatch hb
        exact comes_converge settings calm shows linked (fun b hb => (none b hb).elim)
          (Table.keyed_nil _) (fun b hb => (none b hb).elim) (taken_ofPort l p.id)
    | other => exact Comes.pure shows
  · exact .pure shows

/-- What a port that changes comes to once its bindings are listed. -/
theorem comes_following (old new : Port) : Comes (do
    let current ← execute (.bindingsOf new.id)
    converge settings new current
    if new.role = .dhcp then
      if old.role = .dhcp then moveServer old new else createServiceFor settings new) w l
      (following settings w.catalog (l.view new.networkId (some new.id)) old new) := by
  refine Comes.quiet (quiet_bindingsOf shows new.id) ?_ fun e none => nomatch none
  rintro current w1 follows1 shows1 answer
  rw [Except.ok.inj answer, ← follows1.catalog]
  refine Comes.andThen linked (comes_converge settings (calm.follows follows1) shows1 linked
    (fun b => Store.mem_ofPort.mp) (keyed_ofPort l new.id linked) (complete_ofPort l new.id)
    (taken_ofPort l new.id)) ?_
  rintro - acts l' w2 follows2 shows2 linked2 path - deeds
  have calm2 := (calm.follows follows1).follows follows2
  -- rows have changed, and services have not
  have services :=
    (servesAs_of_ofPort path deeds (ofPort_converged settings w1.catalog _ _)).services
  refine Goes.ite (fun dhcp => ?_) fun other => ?_
  · rw [if_pos dhcp]
    refine Goes.ite (fun still => ?_) fun anew => ?_
    · rw [if_pos still]
      have moved := comes_moveServer calm2 shows2 linked2 old new
      rwa [services] at moved
    · rw [if_neg anew]
      have made := comes_createServiceFor settings calm2 shows2 linked2 new
      rwa [services, follows2.catalog, path.mappings_eq.2] at made
  · rw [if_neg other]
    exact Comes.pure shows2

end Linked

section Proper

variable (proper : l.Proper)

include proper

/-- A port that changes, by what is seen of its network. -/
theorem comes_portUpdated {old new : Port} (stays : old.networkId = new.networkId)
    (lodged : l.Lodged new.networkId new.id) :
    (portUpdated settings old new).Comes w l
      (if !settings.nativeDhcp || sameBindings old new then .done []
        else changing settings w.catalog (l.view new.networkId (some new.id)) old new) := by
  rw [portUpdated]
  split
  · exact .pure shows
  refine Goes.locked (Goes.locked ?_)
  refine Comes.quiet (quiet_query shows (.port new.id)) ?_ fun e rough => absurd calm rough
  rintro port w1 follows1 shows1 answer
  have known : Table.find? Port.id new.id w.catalog.ports = port := answer.symm
  rw [changing.eq_def, known, ← follows1.catalog]
  have calm1 := calm.follows follows1
  cases port with
  | none => exact .pure shows1
  | some p =>
      refine Goes.ite (fun leaves => ?_) fun remains => ?_
      · dsimp only
        rw [if_pos leaves]
        have torn := comes_teardown calm1 shows1 proper new.networkId (some old.id)
        rw [stays]
        refine Comes.andThen proper torn ?_
        rintro - acts l' w2 follows2 shows2 linked2 path - deeds
        rw [← view_tornDown proper lodged path deeds, ← follows2.catalog]
        exact comes_following settings (calm1.follows follows2) shows2 linked2 old new
      · dsimp only
        rw [if_neg remains]
        exact comes_following settings calm1 shows1 proper old new

/-- A port that goes, by what is seen of its network. -/
theorem comes_portDeleted (p : Port) :
    (portDeleted p).Comes w l (going (l.view p.networkId (some p.id)) p) := by
  refine Goes.locked (Goes.locked ?_)
  refine Comes.quiet (quiet_bindingsOf shows p.id) ?_ fun e none => nomatch none
  rintro rows w1 follows1 shows1 answer
  rw [Except.ok.inj answer]
  have calm1 := calm.follows follows1
  have released : ((Store.ofPort p.id l.rows).forM (releaseAddress p.id)).Comes w1 l
      (.done ((Store.ofPort p.id l.rows).map .release)) := by
    have none : ∀ x ∈ (none : Option Store.Service), x ∈ l.services := fun x hx => nomatch hx
    have edited := comes_edits .default (.ofSettings .default) calm1 shows1 proper
      (ready_dropped l p proper) none (taken_ofPort l p.id) []
    rwa [List.map_nil, List.append_nil, carriedOut_dropped, ← forM_releaseAddress] at edited
  refine Comes.andThen proper released ?_
  rintro - acts l' w2 follows2 shows2 linked2 path - deeds
  refine Goes.ite (fun dhcp => ?_) fun other => ?_
  · rw [if_pos dhcp]
    -- rows have gone, and services have not
    have own : ∀ d ∈ (Store.ofPort p.id l.rows).map Deed.release,
        d.OfPort p.id none (Store.ofPort p.id l.rows) := by
      intro d hd
      obtain ⟨b, hb, rfl⟩ := List.mem_map.mp hd
      exact hb
    have services := (servesAs_of_ofPort path deeds own).services
    have torn := comes_teardown (calm1.follows follows2) shows2 (path.proper proper) p.networkId
      (some p.id)
    rwa [services] at torn
  · rw [if_neg other]
    exact Comes.pure shows2

/-- If nothing fails, an event comes to what it should: its answer and its deeds depend on its view
of the ledger and on the catalog only. -/
theorem comes_event {e : Event} {networkId : String} (here : e.networkId? = some networkId)
    (stays : e.Stays) (lodged : ∀ portId ∈ e.portId?, l.Lodged networkId portId) {effect : Effect}
    (described : e.effect? settings w.catalog (l.view networkId e.portId?) = some effect) :
    (e.handler settings).Comes w l effect := by
  have torn : ∀ {networkId : String}, Comes (locked (.network networkId) (teardown networkId none))
      w l (tornDown (Table.find? Store.Service.networkId networkId l.services) none) :=
    Goes.locked (comes_teardown calm shows proper _ none)
  cases e with
  | networkCreated n =>
      cases here; cases described; exact comes_networkCreated settings calm shows n
  | networkDeleted networkId => cases here; cases described; exact torn
  | subnetCreated s =>
      cases here; cases described
      show Comes (subnetCreated settings s) _ _ _
      rw [subnetCreated]
      split
      · exact Goes.locked (comes_ensureOnlyDhcpSubnet settings calm shows s)
      · exact .pure shows
  | subnetUpdated old new =>
      cases here; cases described
      refine Goes.locked ?_
      cases old.servesDhcp with
      | false =>
          cases new.servesDhcp with
          | false => exact Comes.pure shows
          | true => exact comes_ensureOnlyDhcpSubnet settings calm shows new
      | true =>
          cases new.servesDhcp with
          | false => exact comes_teardown calm shows proper new.networkId none
          | true => exact Comes.pure shows
  | subnetDeleted s =>
      cases here; cases described
      show Comes (subnetDeleted s) _ _ _
      rw [subnetDeleted]
      split
      · exact torn
      · exact .pure shows
  | portCreated p =>
      cases here; cases described; exact comes_portCreated settings calm shows proper p
  | portUpdated old new =>
      cases here; cases described
      exact comes_portUpdated settings calm shows proper stays (lodged new.id rfl)
  | portDeleted p => cases here; cases described; exact comes_portDeleted calm shows proper p
  | resync profileId => exact nomatch here

end Proper

end Events

/-! ## What the deeds of an event are about -/

/-- The deed is about the service or the rows that the view shows, or makes the server of this
network. -/
def Deed.Of (networkId : String) (portId? : Option String) (v : View) : Deed → Prop
  | serve n _ _ => n = networkId
  | readdress serverId _ => ∃ x, v.service = some x ∧ x.serverId = serverId
  | retire x => v.service = some x
  | bind x q _ => v.service = some x ∧ portId? = some q
  | move b _ | clash b _ | release b => b ∈ v.rows

section Of

variable {networkId : String} {v : View}

/-- A deed on a port's rows is a deed of what is seen of the network. -/
theorem Deed.OfPort.of {portId : String} {d : Deed} (h : d.OfPort portId v.service v.rows) :
    d.Of networkId (some portId) v := by
  cases d with
  | bind x q d => exact ⟨h.1, congrArg some h.2.symm⟩
  | move b d => exact h
  | clash b d => exact h
  | release b => exact h
  | _ => exact h.elim

/-- A deed of what is seen without a server is one of what is seen. -/
theorem Deed.Of.without {portId? : Option String} {owner : String} {d : Deed}
    (h : d.Of networkId portId? (v.without owner)) : d.Of networkId portId? v := by
  rw [View.without] at h
  split at h
  · cases d with
    | serve n p config => exact h
    | readdress s ip => obtain ⟨x, none, -⟩ := h; exact nomatch none
    | retire x => exact nomatch h
    | bind x q d => exact nomatch h.1
    | move b d => exact nomatch h
    | clash b d => exact nomatch h
    | release b => exact nomatch h
  · exact h

/-- Taking down a server is about the network. -/
theorem of_tornDown {portId? : Option String} (owner : Option String) :
    ∀ d ∈ (tornDown v.service owner).deeds, d.Of networkId portId? v := by
  intro d hd
  cases found : v.service with
  | none => rw [found] at hd; cases hd
  | some x =>
      rw [found, tornDown] at hd
      split at hd
      · cases hd
      · rw [List.mem_singleton.mp hd]
        exact found

/-- Making a server is about the network. -/
theorem of_serverMade {portId? : Option String} (settings : Settings) (c : Catalog) (p : Port)
    (service : Option Store.Service) (ports : Option (List Store.PortMapping)) :
    ∀ d ∈ (serverMade settings c p service ports).deeds, d.Of p.networkId portId? v := by
  intro d hd
  rw [serverMade.eq_def] at hd
  split at hd
  · cases hd
  · cases hd
  · cases hd
  · split at hd
    · cases hd
    · cases hd
    · rw [List.mem_singleton.mp hd]
      rfl

/-- Moving a server is about the network. -/
theorem of_serverMoved {portId? : Option String} (old new : Port) :
    ∀ d ∈ (serverMoved old new v.service).deeds, d.Of networkId portId? v := by
  intro d hd
  rw [serverMoved.eq_def] at hd
  split at hd
  · cases hd
  · next ip x _ found =>
    rw [List.mem_singleton.mp hd]
    exact ⟨x, found, rfl⟩
  · cases hd

/-- What becomes of a port that changes is about the port and its network. -/
theorem of_following (settings : Settings) (c : Catalog) (old new : Port) :
    ∀ d ∈ (following settings c v old new).deeds, d.Of new.networkId (some new.id) v := by
  intro d hd
  rcases Effect.mem_andThen hd with first | later
  · exact (ofPort_converged settings c _ _ d first).of
  · split at later
    · split at later
      · exact of_serverMoved old new d later
      · exact of_serverMade settings c new _ _ d later
    · exact nomatch later

/-- An event does nothing but to what it looks at. -/
theorem of_event (settings : Settings) (c : Catalog) {e : Event} {networkId : String}
    (here : e.networkId? = some networkId) {effect : Effect}
    (described : e.effect? settings c v = some effect) :
    ∀ d ∈ effect.deeds, d.Of networkId e.portId? v := by
  have none : ∀ d ∈ (Effect.done []).deeds, d.Of networkId e.portId? v := fun d hd => nomatch hd
  cases e with
  | networkCreated n => cases described; exact none
  | networkDeleted id => cases described; exact of_tornDown _
  | subnetCreated s => cases described; split <;> exact none
  | subnetUpdated old new =>
      cases described
      split
      · exact none
      · exact of_tornDown _
      · exact none
  | subnetDeleted s =>
      cases described
      split
      · exact of_tornDown _
      · exact none
  | portCreated p =>
      cases here; cases described
      split
      · rw [coming.eq_def]
        split
        · exact of_serverMade settings c p _ _
        -- an instance port: deeds on its own rows, and new bindings for itself
        · intro d hd
          have own := ofPort_converged settings c _ _ d hd
          cases d with
          | bind x q d => exact ⟨own.1, congrArg some own.2.symm⟩
          | serve _ _ _ => exact own.elim
          | readdress _ _ => exact own.elim
          | retire _ => exact own.elim
          | _ => exact nomatch own
        · exact none
      · exact none
  | portUpdated old new =>
      cases here; cases described
      split
      · exact none
      · rw [changing.eq_def]
        split
        · exact none
        · split
          -- the server goes first, so what follows is about a network without it
          · intro d hd
            rcases Effect.mem_andThen hd with first | later
            · exact of_tornDown _ d first
            · exact (of_following settings c old new d later).without
          · exact of_following settings c old new
  | portDeleted p =>
      cases here; cases described
      intro d hd
      rcases Effect.mem_andThen hd with first | later
      · obtain ⟨b, hb, rfl⟩ := List.mem_map.mp first
        exact hb
      · split at later
        · exact of_tornDown _ d later
        · exact nomatch later
  | resync profileId => exact nomatch here

end Of

end Overlay.Dhcp
