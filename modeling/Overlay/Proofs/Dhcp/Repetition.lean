import Overlay.Proofs.Dhcp.Tally

/-!
# A pass after another pass

A pass makes every binding anew, also one that is there, and lets the old binding go when the new
one is remembered. So a second pass with nothing between does not stand still; but if nothing fails
it comes to the same. It has the servers that the first one had and misses those that the first one
missed, and it binds the same addresses of each port on the same servers. Rows stay where they are
and get new names for their bindings; the controller holds as many bindings, with the same contents.

Main statement: `resync_again`.
-/

namespace Overlay.Dhcp

open Overlay.Controller (HeldBinding)
open Overlay.Handler

variable {w w' : World} {l l' m m' : Ledger}

/-! ## The same servers -/

/-- Two lists that agree in one view of their elements agree in every view that follows from it. -/
theorem map_eq_of_map_eq {α β κ γ : Type} {f : α → κ} {g : β → κ} {u : α → γ} {v : β → γ}
    {xs : List α} {ys : List β} (same : xs.map f = ys.map g)
    (follows : ∀ x ∈ xs, ∀ y ∈ ys, f x = g y → u x = v y) : xs.map u = ys.map v := by
  induction xs generalizing ys with
  | nil =>
      cases ys with
      | nil => rfl
      | cons y ys => cases same
  | cons x xs ih =>
      cases ys with
      | nil => cases same
      | cons y ys =>
          obtain ⟨here, there⟩ := List.cons.inj same
          rw [List.map_cons, List.map_cons,
            follows x List.mem_cons_self y List.mem_cons_self here,
            ih there fun a ha b hb => follows a (List.mem_cons_of_mem x ha) b
              (List.mem_cons_of_mem y hb)]

namespace Asked

/-- The server that was had, behind the switch for which it was sought. -/
def had (a : Asked) : Option SwitchServer :=
  match a.result with
  | .ok (x, _) => some ⟨a.switchId, x⟩
  | .error _ => none

theorem failed_eq (a : Asked) : a.failed = a.had.isNone := by
  rcases a with ⟨p, s, e | ⟨x, fresh⟩⟩ <;> rfl

theorem among_eq (servers : List SwitchServer) (a : Asked) : among servers a
    = match a.had with
      | some v => Table.put SwitchServer.switchId v servers
      | none => servers := by
  rcases a with ⟨p, s, e | ⟨x, fresh⟩⟩ <;> rfl

variable {asked asked' : List Asked}

/-- A pass remembers nothing but the servers that were had. -/
theorem foldl_among_congr (same : asked'.map had = asked.map had) (servers : List SwitchServer) :
    asked'.foldl among servers = asked.foldl among servers := by
  have remembered : ∀ asked : List Asked, asked.foldl among servers
      = (asked.map had).foldl (fun servers v? => match v? with
        | some v => Table.put SwitchServer.switchId v servers
        | none => servers) servers := by
    intro asked
    rw [List.foldl_map]
    exact congrArg (fun f => asked.foldl f servers) (funext fun _ => funext fun a => among_eq _ a)
  rw [remembered, remembered, same]

/-- Where the same servers are had and none of them is made, all are counted as found. -/
theorem recount (same : asked'.map had = asked.map had) (old : ∀ a ∈ asked', a.made = false) :
    asked'.countP made = 0 ∧ asked'.countP found = asked.countP made + asked.countP found ∧
      asked'.countP failed = asked.countP failed := by
  have none : asked'.countP made = 0 := List.countP_eq_zero.mpr fun a ha => by simp [old a ha]
  have missed : ∀ asked : List Asked,
      asked.countP failed = (asked.map had).countP Option.isNone := by
    intro asked
    rw [List.countP_map]
    exact congrArg (fun p => asked.countP p) (funext failed_eq)
  have failed : asked'.countP failed = asked.countP failed := by rw [missed, missed, same]
  have length := congrArg List.length same
  rw [List.length_map, List.length_map] at length
  have all := countP_add asked
  have all' := countP_add asked'
  exact ⟨none, by omega, failed⟩

/-- Whoever had a server has it once more, and whoever had none goes without one if the network has
none after all. -/
theorem Stands.again {services services' services'' : List Store.Service} {a a' : Asked}
    (stands : a.Stands services services') (stands' : a'.Stands services' services'')
    (port : a'.port = a.port) (switch : a'.switchId = a.switchId)
    (kept : ∀ x ∈ services', x ∈ services'')
    (keyed : Table.Keyed Store.Service.networkId services'')
    (unserved : ∀ e, a.result = .error e → ∀ x ∈ services'', x.networkId ≠ a.port.networkId) :
    a'.had = a.had ∧ a'.made = false := by
  rcases a with ⟨p, s, result⟩
  rcases a' with ⟨_, _, result'⟩
  cases port
  cases switch
  rcases result with e | ⟨x, fresh⟩
  · have unserved := unserved e rfl
    rcases result' with e' | ⟨y, fresh'⟩
    · exact ⟨rfl, rfl⟩
    · exact absurd stands'.2.1 (unserved y stands'.1)
  · obtain ⟨hx, network, -⟩ := stands
    rcases result' with e' | ⟨y, fresh'⟩
    · exact absurd network (stands' x hx)
    · obtain ⟨hy, network', new⟩ := stands'
      cases keyed.eq_of_key (kept x hx) hy (network.trans network'.symm)
      cases fresh' with
      | false => exact ⟨rfl, rfl⟩
      | true => exact absurd network ((new rfl).2 x hx)

end Asked

section Again

variable {settings : Settings} {pass pass' : Pass} {made made' : List Act}
  {asked asked' : List Asked}

/-- If nothing fails, a network for which no server was had has none after a second pass either. -/
theorem Tallied.unserved {ports : List Port} (calm : w.Calm) (attachable : l.ports ≠ none)
    (profile : ∃ id, settings.dhcpProfile = .ok id) (catalog : w'.catalog = w.catalog)
    (services : m.services = l'.services)
    (first : Tallied w l settings ports pass made l' asked)
    (second : Tallied w' m settings ports pass' made' m' asked') {a : Asked} (ha : a ∈ asked)
    {e : Error} (failed : a.result = .error e) :
    ∀ x ∈ m'.services, x.networkId ≠ a.port.networkId := by
  have missing := first.missing calm attachable profile a ha e failed
  have before : ∀ x ∈ l.services, x.networkId ≠ a.port.networkId := by
    have stands := first.stands a ha
    rw [Asked.Stands, failed] at stands
    exact stands
  intro x hx same
  -- a server that is made is made for a network that is there
  have known : x ∈ l'.services ∨ ∃ n ∈ w.catalog.networks, n.id = x.networkId := by
    rw [← services, ← catalog]
    exact second.known x hx
  rcases known.elim (first.known x) Or.inr with old | ⟨n, hn, id⟩
  · exact before x old same
  · exact missing n hn (id.trans same)

/-- A second pass has the same servers, and none of them is made by it. -/
theorem Tallied.again {ports : List Port} (calm : w.Calm) (attachable : l.ports ≠ none)
    (profile : ∃ id, settings.dhcpProfile = .ok id) (catalog : w'.catalog = w.catalog)
    (switches : m.switch? = l.switch?) (services : m.services = l'.services) (linked : m'.Linked)
    (kept : ∀ x ∈ m.services, x ∈ m'.services)
    (first : Tallied w l settings ports pass made l' asked)
    (second : Tallied w' m settings ports pass' made' m' asked') :
    asked'.map (·.had) = asked.map (·.had) ∧ ∀ a ∈ asked', a.made = false := by
  have aligned : asked'.map (fun a => (a.port, a.switchId))
      = asked.map fun a => (a.port, a.switchId) := by
    rw [first.all, second.all, catalog, switches]
  have once : ∀ a' ∈ asked', ∀ a ∈ asked, (a'.port, a'.switchId) = (a.port, a.switchId) →
      a'.had = a.had ∧ a'.made = false := by
    intro a' ha' a ha same
    obtain ⟨port, switch⟩ := Prod.mk.inj same
    refine (first.stands a ha).again ?_ port switch (services ▸ kept) linked.services_keyed
      fun e failed => first.unserved calm attachable profile catalog services second ha failed
    rw [← services]
    exact second.stands a' ha'
  refine ⟨map_eq_of_map_eq aligned fun a' ha' a ha same => (once a' ha' a ha same).1, ?_⟩
  intro a' ha'
  have counterpart : (a'.port, a'.switchId) ∈ asked.map fun a => (a.port, a.switchId) :=
    aligned ▸ List.mem_map.mpr ⟨a', ha', rfl⟩
  obtain ⟨a, ha, same⟩ := List.mem_map.mp counterpart
  exact (once a' ha' a ha same.symm).2

end Again

/-! ## The same bindings -/

section Finished

variable {settings : Settings} {pass pass' : Pass} {made made' binds binds' : List Act}
  {between between' : Ledger} {report report' : ResyncReport}

/-- If nothing fails, everything that is tried is bound. -/
theorem Finished.report_of_calm (calm : w.Calm)
    (finished : Finished w l settings pass made binds between report l') {asked : List Asked}
    (tallied : Tallied w l settings w.catalog.ports pass made between asked) :
    report = ⟨asked.countP (·.made), asked.countP (·.found), asked.countP (·.failed),
      ((orderedGroups pass.groups).flatMap (groupBinds pass.servers)).length, 0⟩ := by
  obtain ⟨lost, parts, rfl⟩ := finished.tried
  rw [finished.aims.2 calm] at parts ⊢
  have lengths := parts.length_eq
  rw [List.length_append] at lengths
  have none : lost.length = 0 := by omega
  rw [tallied.report_eq, none]

theorem Finished.plain (calm : w.Calm)
    (finished : Finished w l settings pass made binds between report l')
    (accounts : w.Accounts (made ++ binds) w') : ∀ a ∈ made ++ binds, a.Plain :=
  plain_of_calm calm accounts finished.toured.serves finished.aims

/-- With the same servers the same is bound of each port. -/
theorem Toured.binds_again (first : Toured w l settings w.catalog.ports pass made between)
    (second : Toured w' m settings w'.catalog.ports pass' made' between')
    (once : Table.Keyed Port.id w.catalog.ports) (catalog : w'.catalog = w.catalog)
    (switches : m.switch? = l.switch?) (servers : pass'.servers = pass.servers) (portId : String) :
    ((orderedGroups pass'.groups).flatMap (groupBinds pass'.servers)).filter
        (fun b => b.2.1 = portId)
      = ((orderedGroups pass.groups).flatMap (groupBinds pass.servers)).filter
        fun b => b.2.1 = portId := by
  rw [first.binds_filter once, second.binds_filter (catalog ▸ once), catalog, switches, servers]

/-- The report of a pass that finds what another one left: every server is there, and all else is
counted as before. -/
structure ResyncReport.Repeats (first second : ResyncReport) : Prop where
  created : second.serversCreated = 0
  reused : second.serversReused = first.serversCreated + first.serversReused
  missed : second.serversFailed = first.serversFailed
  bound : second.bindingsCreated = first.bindingsCreated
  unbound : second.bindingsFailed = first.bindingsFailed

/-- A second pass makes no server and binds the same of each port. -/
theorem Finished.again (calm : w.Calm) (calm' : w'.Calm) (attachable : l.ports ≠ none)
    (profile : ∃ id, settings.dhcpProfile = .ok id) (catalog : w'.catalog = w.catalog)
    (once : Table.Keyed Port.id w.catalog.ports) (linked : l.Linked)
    (first : Finished w l settings pass made binds between report m)
    (second : Finished w' m settings pass' made' binds' between' report' m') :
    made' = [] ∧ report.Repeats report' ∧ ∀ portId,
      ((orderedGroups pass'.groups).flatMap (groupBinds pass'.servers)).filter
          (fun b => b.2.1 = portId)
        = ((orderedGroups pass.groups).flatMap (groupBinds pass.servers)).filter
          fun b => b.2.1 = portId := by
  obtain ⟨asked, tallied⟩ := first.tallied
  obtain ⟨asked', tallied'⟩ := second.tallied
  have counted := first.report_of_calm calm tallied
  have counted' := second.report_of_calm calm' tallied'
  rw [catalog] at tallied'
  have path := first.path.append first.path'
  obtain ⟨same, old⟩ := tallied.again calm attachable profile catalog path.switch?_eq
    first.services_eq (second.path.linked (first.linked linked))
    (fun x => second.path.mem_services (builds_of_served second.toured.serves)) tallied'
  -- the same ports have asked for the same servers, and all of these were found
  have servers : pass'.servers = pass.servers := by
    rw [tallied.servers, tallied'.servers, Asked.foldl_among_congr same]
  have bound := first.toured.binds_again second.toured once catalog path.switch?_eq servers
  obtain ⟨none, found, failed⟩ := Asked.recount same old
  refine ⟨tallied'.idle calm' (path.mappings_eq.2 ▸ attachable) fun a ha x fresh => ?_, ?_, bound⟩
  · have not_made := old a ha
    rw [Asked.made, fresh] at not_made
    cases not_made
  · rw [counted, counted']
    exact ⟨none, found, failed, (Table.perm_of_filter_key bound).length_eq, rfl⟩

end Finished

/-! ## Rows at their places -/

/-- The key of a row and the time at which it was made. -/
def stamp (b : Store.Binding) : (String × IPv4) × Instant := (b.key, b.createdAt)

/-- A row without the name of its binding and without the time of its last change. -/
def lasting (b : Store.Binding) : (String × String × Desired) × Instant := (entry b, b.createdAt)

/-- A row that replaces another takes over its stamp. -/
theorem stamp_inPlace {rows : List Store.Binding} (keyed : Table.Keyed Store.Binding.key rows)
    {b c : Store.Binding} (hc : c ∈ rows) (same : c.key = b.key) :
    stamp (b.inPlace rows) = stamp c := by
  have found := keyed.find? hc
  rw [same] at found
  rw [Store.Binding.inPlace, found, stamp, stamp, same]
  rfl

theorem map_stamp_putBinding {rows : List Store.Binding}
    (keyed : Table.Keyed Store.Binding.key rows) {b c : Store.Binding} (hc : c ∈ rows)
    (same : c.key = b.key) : (Store.putBinding b rows).map stamp = rows.map stamp := by
  have key := Store.key_inPlace rows b
  refine Table.map_put ⟨c, hc, same.trans key.symm⟩ fun c' hc' same' => ?_
  exact (stamp_inPlace keyed hc' (same'.trans key)).symm

/-- Where there are rows for all addresses that are bound, these stay at their places. -/
theorem Path.stamps_eq {acts : List Act} (path : Path l acts l') (plain : ∀ a ∈ acts, a.Plain)
    (linked : l.Linked)
    (there : ∀ e ∈ acts.filterMap Act.wrote?, ∃ b ∈ l.rows, b.key = place e) :
    l'.rows.map stamp = l.rows.map stamp := by
  refine (path.keeps (P := fun m => m.Linked ∧ m.rows.map stamp = l.rows.map stamp)
    ⟨linked, rfl⟩ ?_).2
  rintro a ha m fits ⟨linked, same⟩
  refine ⟨linked.apply fits, ?_⟩
  cases a with
  | serve networkId portId config time => exact same
  | bind x portId d time missing =>
      -- the row that was there for the address may have been replaced, but not its stamp
      obtain ⟨b, hb, key⟩ := there (x.serverId, portId, d) (List.mem_filterMap.mpr ⟨_, ha, rfl⟩)
      have stamped : stamp b ∈ m.rows.map stamp := same ▸ List.mem_map.mpr ⟨b, hb, rfl⟩
      obtain ⟨c, hc, same'⟩ := List.mem_map.mp stamped
      have here : c.key = (m.newRow x portId d time).key := (congrArg Prod.fst same').trans key
      exact (map_stamp_putBinding linked.rows_keyed hc here).trans same
  | _ => exact (plain _ ha).elim

/-- What is written once more for every port changes nothing that lasts. -/
theorem lasting_eq {acts acts' : List Act} (linked : l.Linked) (path : Path l acts m)
    (path' : Path m acts' m') (plain : ∀ a ∈ acts, a.Plain) (plain' : ∀ a ∈ acts', a.Plain)
    (wrote : ∀ portId, (acts'.filterMap Act.wrote?).filter (fun e => e.2.1 = portId)
      = (acts.filterMap Act.wrote?).filter fun e => e.2.1 = portId) :
    m'.rows.map lasting = m.rows.map lasting := by
  have linked' := path.linked linked
  have last : ∀ k,
      lastAt k (acts'.filterMap Act.wrote?) = lastAt k (acts.filterMap Act.wrote?) := by
    intro k
    rw [← lastAt_filter, wrote k.1, lastAt_filter]
  have found : ∀ k, (Table.find? Store.Binding.key k m'.rows).map entry
      = (Table.find? Store.Binding.key k m.rows).map entry := by
    intro k
    rw [path'.row_eq plain', last, path.row_eq plain, ← Option.or_assoc, Option.or_self]
  -- what is written once more was written before, and so it has a row
  have there : ∀ e ∈ acts'.filterMap Act.wrote?, ∃ b ∈ m.rows, b.key = place e := by
    intro e he
    have some := lastAt_isSome he
    have row := path.row_eq plain (place e)
    rw [last] at some
    rw [Option.or_of_isSome some] at row
    cases here : Table.find? Store.Binding.key (place e) m.rows with
    | none =>
        rw [here] at row
        rw [← row] at some
        cases some
    | some b => exact ⟨b, Table.mem_of_find? here⟩
  have stamps := path'.stamps_eq plain' linked' there
  have keys := congrArg (List.map Prod.fst) stamps
  have times := congrArg (List.map Prod.snd) stamps
  rw [List.map_map, List.map_map] at keys times
  have entries : m'.rows.map entry = m.rows.map entry :=
    linked'.rows_keyed.map_eq keys found
  have both : ∀ rows : List Store.Binding,
      rows.map lasting = (rows.map entry).zip (rows.map (·.createdAt)) :=
    fun rows => List.zip_map'.symm
  rw [both, both, entries]
  exact congrArg _ times

/-- Plain acts that change nothing in the rows but times and names of bindings change nothing but
names in what the controller holds. -/
theorem perm_content_eq {acts : List Act} (linked : m.Linked) (agreed : m.Agreed)
    (path : Path m acts m') (plain : ∀ a ∈ acts, a.Plain)
    (entries : m'.rows.map entry = m.rows.map entry) :
    (m'.held.map content).Perm (m.held.map content) := by
  obtain ⟨agreed', strays⟩ := path.plain_kept plain linked agreed
  obtain ⟨held, distinct, all⟩ :
      ∃ held : List HeldBinding, held.Nodup ∧ ∀ h, m.Stray h ↔ h ∈ held := by
    refine ⟨m.held.filter fun h => ∀ b ∈ m.rows, b.name ≠ h.key,
      linked.held_keyed.nodup.filter _, fun h => ?_⟩
    rw [List.mem_filter, decide_eq_true_iff]
    exact Iff.rfl
  have before := perm_content linked agreed distinct all
  have after := perm_content (path.linked linked) agreed' distinct fun h => (strays h).trans (all h)
  rw [entries] at after
  exact after.trans before.symm

/-! ## Two passes -/

/-- The records have been refreshed: services and servers are the same, rows name other bindings,
and the controller holds as many bindings, with the same contents. -/
structure Refreshed (w w' : World) (rows rows' : List Store.Binding) : Prop where
  services : w'.store.services = w.store.services
  servers : w'.controller.servers = w.controller.servers
  rows : rows'.map lasting = rows.map lasting
  number : w'.controller.bindings.length = w.controller.bindings.length
  held : (w'.controller.bindings.map content).Perm (w.controller.bindings.map content)

/-- What a second pass leaves, if it makes no server and binds the same of each port: services and
servers as they were, the rows at their places, and bindings with the same contents. -/
theorem Finished.refreshed {w₁ w₂ : World} {settings : Settings} {pass pass' : Pass}
    {made binds made' binds' : List Act} {between between' : Ledger} {report report' : ResyncReport}
    (calm : w.Calm) (calm' : w'.Calm) (linked : l.Linked) (agreed : l.Agreed)
    (first : Finished w l settings pass made binds between report m)
    (accounts : w.Accounts (made ++ binds) w₁)
    (second : Finished w' m settings pass' made' binds' between' report' m')
    (accounts' : w'.Accounts (made' ++ binds') w₂) (idle : made' = [])
    (bound : ∀ portId, ((orderedGroups pass'.groups).flatMap (groupBinds pass'.servers)).filter
          (fun b => b.2.1 = portId)
        = ((orderedGroups pass.groups).flatMap (groupBinds pass.servers)).filter
          fun b => b.2.1 = portId) :
    m'.services = m.services ∧ m'.servers = m.servers ∧
      m'.rows.map lasting = m.rows.map lasting ∧
      (m'.held.map content).Perm (m.held.map content) := by
  have path := first.path.append first.path'
  have path' := second.path.append second.path'
  have plain := first.plain calm accounts
  have plain' := second.plain calm' accounts'
  obtain ⟨-, wrote⟩ := made_then_bound first.toured.serves calm first.aims
  obtain ⟨served', wrote'⟩ := made_then_bound second.toured.serves calm' second.aims
  -- every port has its addresses bound in the same order by both passes
  have lasts : m'.rows.map lasting = m.rows.map lasting := by
    refine lasting_eq linked path path' plain plain' fun portId => ?_
    rw [wrote, wrote', List.filter_map, List.filter_map]
    exact congrArg (List.map written) (bound portId)
  have entries := congrArg (List.map Prod.fst) lasts
  rw [List.map_map, List.map_map] at entries
  refine ⟨?_, ?_, lasts, ?_⟩
  · -- bindings do not touch the services
    have stood := second.path
    rw [idle] at stood
    cases stood
    exact second.services_eq
  · rw [(path'.servers_eq plain').2, served', idle]
    exact List.append_nil _
  · exact perm_content_eq (first.linked linked) (first.agreed linked agreed) path' plain' entries

/-- If nothing fails, a pass right after another one repeats its report but that every server is
there, and it does nothing but bind everything anew. -/
theorem resync_again {services : List Store.Service} {rows : List Store.Binding}
    (coherent : Coherent w services rows) (settings : Settings) (profileId : Option String)
    (valid : (settings.withDhcpProfile profileId).validateResync = .ok ())
    (once : (w.catalog.ports.map (·.id)).Nodup) (calm : w.Calm)
    (networks : w.store.networks ≠ none) (ports : w.store.ports ≠ none)
    (timely : ((resync settings profileId).runIn
      ((resync settings profileId).runIn w).2).2.clock.Legible) :
    ∃ first second services' rows' rows'',
      ((resync settings profileId).runIn w).1 = .ok first ∧
      ((resync settings profileId).runIn ((resync settings profileId).runIn w).2).1 = .ok second ∧
      Coherent ((resync settings profileId).runIn w).2 services' rows' ∧
      Coherent ((resync settings profileId).runIn ((resync settings profileId).runIn w).2).2
        services' rows'' ∧
      first.Repeats second ∧
      Refreshed ((resync settings profileId).runIn w).2
        ((resync settings profileId).runIn ((resync settings profileId).runIn w).2).2
        rows' rows'' := by
  have follows := follows_runIn (resync settings profileId) w
  have follows' := follows_runIn (resync settings profileId) ((resync settings profileId).runIn w).2
  have calm' := calm.follows follows
  have linked := coherent.linked
  -- the first pass
  obtain ⟨first, pass, made, binds, between, m, ok, -, shows, accounts, finished⟩ :=
    resync_finished coherent.shows linked valid networks calm.reachable
      (timely.earlier follows'.clock)
  have path := finished.path.append finished.path'
  have linked₁ := finished.linked linked
  have agreed₁ := finished.agreed linked coherent.agreed
  -- the second one starts from what the first one has left, without a fault in between
  obtain ⟨second, pass', made', binds', between', m', ok', -, shows', accounts', finished'⟩ :=
    resync_finished shows linked₁ valid (path.mappings_eq.1 ▸ networks) calm'.reachable timely
  obtain ⟨idle, repeats, bound⟩ := finished.again calm calm' ports
    (validateResync_iff.mp valid).2.2 follows.catalog once linked finished'
  obtain ⟨same_services, same_servers, lasts, held⟩ := finished.refreshed calm calm' linked
    coherent.agreed accounts finished' accounts' idle bound
  have coherent' := Coherent.of_ledger shows linked₁ agreed₁
  have coherent'' := Coherent.of_ledger shows' (finished'.linked linked₁)
    (finished'.agreed linked₁ agreed₁)
  rw [same_services] at coherent''
  refine ⟨first, second, m.services, m.rows, m'.rows, ok, ok', coherent', coherent'', repeats, ?_⟩
  rw [← shows.controller.bindings_eq, ← shows'.controller.bindings_eq] at held
  exact {
    services := coherent''.store.services_eq.trans coherent'.store.services_eq.symm
    servers := by
      rw [shows.controller.servers_eq, shows'.controller.servers_eq]
      exact same_servers
    rows := lasts
    number := by
      have lengths := held.length_eq
      rwa [List.length_map, List.length_map] at lengths
    held := held }

/-- The first network is built and then rebuilt: its server is made once, and its only address is
bound both times. -/
theorem first_network_rebuilt : ∃ services rows rows',
    ((resync Sample.settings none).runIn Sample.world).1 = .ok ⟨1, 0, 0, 1, 0⟩ ∧
    ((resync Sample.settings none).runIn
      ((resync Sample.settings none).runIn Sample.world).2).1 = .ok ⟨0, 1, 0, 1, 0⟩ ∧
    Coherent ((resync Sample.settings none).runIn Sample.world).2 services rows ∧
    Coherent ((resync Sample.settings none).runIn
      ((resync Sample.settings none).runIn Sample.world).2).2 services rows' ∧
    Refreshed ((resync Sample.settings none).runIn Sample.world).2
      ((resync Sample.settings none).runIn
        ((resync Sample.settings none).runIn Sample.world).2).2 rows rows' := by
  have coherent : Coherent Sample.world [] [] :=
    Sample.coherent_start ⟨rfl, rfl, rfl, rfl, rfl, rfl⟩
  have run : ((resync Sample.settings none).runIn Sample.world).1.toOption
      = some ⟨1, 0, 0, 1, 0⟩ := by decide +kernel
  obtain ⟨first, second, services, rows, rows', ok, ok', coherent', coherent'', repeats,
      refreshed⟩ :=
    resync_again coherent Sample.settings none rfl (by decide) Sample.calm nofun nofun
      (by show Clock.Legible _; decide +kernel)
  rw [ok] at run
  cases run
  obtain ⟨created, reused, missed, bound, unbound⟩ := repeats
  cases second
  cases created
  cases reused
  cases missed
  cases bound
  cases unbound
  exact ⟨services, rows, rows', ok, ok', coherent', coherent'', refreshed⟩

end Overlay.Dhcp
