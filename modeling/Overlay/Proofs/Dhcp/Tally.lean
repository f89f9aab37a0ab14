import Overlay.Proofs.Dhcp.Departure
import Overlay.Proofs.Dhcp.Equivalence

/-!
# What a rebuilding pass counts

A pass goes on whatever calls fail: it seeks a server for each DHCP port that has its first address
in a served subnet and a switch behind its network, and it tries each address of an instance port
behind a switch for which a server was had. Its report counts every one of these once. What is
counted as created is bound, by a new binding; what is counted as failed is as it was; and nothing
else is touched.

Main statement: `resync_accounts`.
-/

namespace Overlay.Dhcp

open Overlay.Handler

variable {w : World} {l l' : Ledger} {acts : List Act}

/-! ## Servers -/

namespace Asked

/-- A server was made. -/
def made (a : Asked) : Bool :=
  match a.result with
  | .ok (_, fresh) => fresh
  | .error _ => false

/-- There was a server. -/
def found (a : Asked) : Bool :=
  match a.result with
  | .ok (_, fresh) => !fresh
  | .error _ => false

/-- There is no server to be had. -/
def failed (a : Asked) : Bool :=
  match a.result with
  | .ok _ => false
  | .error _ => true

theorem counted (asked : List Asked) (r : ResyncReport) :
    asked.foldl (fun r a => r.withServer a.result) r = { r with
      serversCreated := r.serversCreated + asked.countP made
      serversReused := r.serversReused + asked.countP found
      serversFailed := r.serversFailed + asked.countP failed } := by
  induction asked generalizing r with
  | nil => rfl
  | cons a rest ih =>
      rw [List.foldl_cons, ih, List.countP_cons, List.countP_cons, List.countP_cons]
      rcases a with ⟨p, s, e | ⟨x, _ | _⟩⟩ <;>
        simp [ResyncReport.withServer, made, found, failed, Nat.add_assoc, Nat.add_comm 1]

theorem countP_add (asked : List Asked) :
    asked.countP made + asked.countP found + asked.countP failed = asked.length := by
  induction asked with
  | nil => rfl
  | cons a rest ih =>
      rw [List.countP_cons, List.countP_cons, List.countP_cons, List.length_cons, ← ih]
      rcases a with ⟨p, s, e | ⟨x, _ | _⟩⟩ <;> simp [made, found, failed] <;> omega

/-- For a switch there is a server if one was had on account of a port behind it. -/
theorem isSome_foldl_among (asked : List Asked) (servers : List SwitchServer) (s : String) :
    (Table.find? SwitchServer.switchId s (asked.foldl among servers)).isSome = true ↔
      (Table.find? SwitchServer.switchId s servers).isSome = true ∨
        ∃ a ∈ asked, a.switchId = s ∧ a.failed = false := by
  induction asked generalizing servers with
  | nil => simp
  | cons a rest ih =>
      rw [List.foldl_cons, ih]
      have here : (Table.find? SwitchServer.switchId s (among servers a)).isSome = true ↔
          (Table.find? SwitchServer.switchId s servers).isSome = true ∨
            a.switchId = s ∧ a.failed = false := by
        rcases a with ⟨p, s', e | ⟨x, fresh⟩⟩
        · simp [among, failed]
        · rw [among, Table.find?_put SwitchServer.switchId]
          by_cases same : s' = s
          · simp [same, failed]
          · simp [same, Ne.symm same, failed]
      rw [here, or_assoc]
      simp only [List.mem_cons, or_and_right, exists_or, exists_eq_left]

end Asked

/-- The report of a pass, with so many bindings that were made and so many that were not. -/
theorem Tallied.report_eq {settings : Settings} {ports : List Port} {pass : Pass} {made : List Act}
    {asked : List Asked} (tallied : Tallied w l settings ports pass made l' asked)
    (created failed : Nat) : pass.report.withBindings created failed
      = ⟨asked.countP (·.made), asked.countP (·.found), asked.countP (·.failed), created,
        failed⟩ := by
  rw [tallied.report, Asked.counted]
  simp only [ResyncReport.withBindings, Pass.start, Nat.zero_add]

/-! ## Bindings -/

/-- The row of a key is that of one of the bindings that were written, which has a name that was not
given before. -/
def Rebound (l : Ledger) (wrote : List (String × String × Desired)) (k : String × IPv4)
    (l' : Ledger) : Prop :=
  ∃ b n, Table.find? Store.Binding.key k l'.rows = some b ∧ entry b ∈ wrote ∧
    l.bindingsMade < n ∧ b.bindingId = Controller.State.bindingName n

/-- No binding was written for a key, and its row is as it was. -/
def Spared (l : Ledger) (wrote : List (String × String × Desired)) (k : String × IPv4)
    (l' : Ledger) : Prop :=
  (∀ e ∈ wrote, place e ≠ k) ∧
    Table.find? Store.Binding.key k l'.rows = Table.find? Store.Binding.key k l.rows

theorem bindingId_inPlace (rows : List Store.Binding) (b : Store.Binding) :
    (b.inPlace rows).bindingId = b.bindingId :=
  congrArg Prod.snd (Store.Binding.name_inPlace rows b)

/-- An act that makes something and what follows it. -/
theorem spared_or_rebound_cons {a : Act} (builds : a.Builds) (k : String × IPv4)
    {wrote : List (String × String × Desired)}
    (rest : Spared (a.apply l) wrote k l' ∨ Rebound (a.apply l) wrote k l') :
    Spared l (a.wrote?.toList ++ wrote) k l' ∨ Rebound l (a.wrote?.toList ++ wrote) k l' := by
  -- an act other than a binding leaves the rows alone
  have aside : a.wrote? = none → (a.apply l).rows = l.rows →
      l.bindingsMade ≤ (a.apply l).bindingsMade →
      Spared l (a.wrote?.toList ++ wrote) k l' ∨ Rebound l (a.wrote?.toList ++ wrote) k l' := by
    intro silent rows made
    rw [silent]
    rcases rest with ⟨none, same⟩ | ⟨b, n, found, wrote, new, name⟩
    · exact Or.inl ⟨none, rows ▸ same⟩
    · exact Or.inr ⟨b, n, found, wrote, Nat.lt_of_le_of_lt made new, name⟩
  cases a with
  | serve networkId portId config time => exact aside rfl rfl (Nat.le_refl _)
  | readdress serverId ip => exact aside rfl rfl (Nat.le_refl _)
  | leak x portId d e => exact aside rfl rfl (Nat.le_succ _)
  | bind x portId d time m =>
      obtain ⟨held, eq, -⟩ := (l.create x d).supersede_eq (l.row? portId d.address) m
      have made : ((Act.bind x portId d time m).apply l).bindingsMade = l.bindingsMade + 1 := by
        rw [Act.apply, eq]
        rfl
      rcases rest with ⟨none, same⟩ | ⟨b, n, found, wrote, new, name⟩
      · have row := same.trans (Store.find?_putBinding (l.newRow x portId d time) l.rows k)
        by_cases here : k = (l.newRow x portId d time).key
        · rw [if_pos here] at row
          refine Or.inr ⟨_, l.bindingsMade + 1, row, ?_, Nat.lt_succ_self _, ?_⟩
          · rw [entry_inPlace]
            exact List.mem_cons_self
          · rw [bindingId_inPlace]
            rfl
        · rw [if_neg here] at row
          exact Or.inl ⟨List.forall_mem_cons.mpr ⟨Ne.symm here, none⟩, row⟩
      · exact Or.inr ⟨b, n, found, List.mem_cons_of_mem _ wrote, by omega, name⟩
  | retire _ _ => exact builds.elim
  | move _ _ _ => exact builds.elim
  | clash _ _ _ => exact builds.elim
  | release _ _ => exact builds.elim
  | stay _ _ => exact builds.elim

/-- While servers and bindings are made, every row is spared or bound anew. -/
theorem Path.spared_or_rebound (path : Path l acts l') (builds : ∀ a ∈ acts, a.Builds)
    (k : String × IPv4) :
    Spared l (acts.filterMap Act.wrote?) k l' ∨ Rebound l (acts.filterMap Act.wrote?) k l' := by
  induction path with
  | nil l => exact Or.inl ⟨fun _ he => (nomatch he), rfl⟩
  | @cons l l' a acts fits rest ih =>
      obtain ⟨here, there⟩ := List.forall_mem_cons.mp builds
      have split : (a :: acts).filterMap Act.wrote?
          = a.wrote?.toList ++ acts.filterMap Act.wrote? := by
        cases wrote : a.wrote? with
        | none => exact List.filterMap_cons_none wrote
        | some e => exact List.filterMap_cons_some wrote
      rw [split]
      exact spared_or_rebound_cons here k (ih there)

/-! ## Pairs of a port and an address -/

/-- A server was found for the switch. -/
def Pass.hasServer (pass : Pass) (switchId : String) : Bool :=
  (Table.find? SwitchServer.switchId switchId pass.servers).isSome

/-- The instance ports with their addresses in served subnets, of networks with a switch for which a
server was found. -/
def Pass.pairs (pass : Pass) (c : Catalog) (switch? : String → Option String) :
    List (String × Desired) :=
  (c.ports.filter fun p => p.isCompute && (switch? p.networkId).any pass.hasServer).flatMap
    (portEntries c)

/-- The port and address of a pair. -/
def spot (e : String × Desired) : String × IPv4 := (e.1, e.2.address)

section Pairs

variable {c : Catalog} {pass : Pass}

theorem keyed_portEntries {p : Port} (distinct : (p.ipv4s.map (·.2)).Nodup) :
    Table.Keyed spot (portEntries c p) := by
  have some : Table.Keyed (·.2) (p.ipv4s.filter fun f => servedIn c f.1) :=
    distinct.sublist (List.filter_sublist.map _)
  rw [Table.Keyed, portEntries, entriesOf, List.map_map]
  exact some.of_key fun f _ g _ same => (Prod.mk.inj same).2

theorem keyed_pairs (once : Table.Keyed Port.id c.ports)
    (distinct : ∀ p ∈ c.ports, (p.ipv4s.map (·.2)).Nodup) (switch? : String → Option String) :
    Table.Keyed spot (pass.pairs c switch?) := by
  refine Table.Keyed.flatMap (once.sublist (List.filter_sublist.map _)) (fun p _ e he => ?_)
    fun p hp => keyed_portEntries (distinct p (List.mem_filter.mp hp).1)
  exact tag_portEntries he

/-- What is tried is one binding for each pair. -/
theorem Toured.binds_perm {settings : Settings}
    (toured : Toured w l settings w.catalog.ports pass acts l')
    (once : Table.Keyed Port.id w.catalog.ports) :
    (((orderedGroups pass.groups).flatMap (groupBinds pass.servers)).map (·.2)).Perm
      (pass.pairs w.catalog l.switch?) := by
  -- the pass binds by switches and the pairs are listed by ports: port by port they are the same
  suffices same : ∀ portId : String,
      (((orderedGroups pass.groups).flatMap (groupBinds pass.servers)).map (·.2)).filter
          (fun e => e.1 = portId)
        = (pass.pairs w.catalog l.switch?).filter fun e => e.1 = portId from
    Table.perm_of_filter_key same
  intro portId
  have part := once.filter_flatMap (f := portEntries w.catalog)
    (fun p => p.isCompute && (l.switch? p.networkId).any pass.hasServer)
    (fun p _ e => tag_portEntries) portId
  rw [Pass.pairs, part, List.filter_map]
  have bound := congrArg (List.map fun b : Store.Service × String × Desired => b.2)
    (toured.binds_filter once portId)
  refine bound.trans ?_
  cases Table.find? Port.id portId w.catalog.ports with
  | none => rfl
  | some p =>
      dsimp only
      cases p.isCompute with
      | false => rfl
      | true =>
          rw [if_pos rfl, Bool.true_and, portBindings]
          cases l.switch? p.networkId with
          | none => rfl
          | some switchId =>
              rw [Option.bind_some, Option.any_some, Pass.hasServer]
              cases Table.find? SwitchServer.switchId switchId pass.servers with
              | none => rfl
              | some v =>
                  dsimp only [Option.isSome_some]
                  rw [if_pos rfl, List.map_map]
                  exact List.map_id _

end Pairs

/-! ## The whole pass -/

/-- A pass by what it counts. It has sought servers and come to `pass` by this, and then it has
tried the pairs behind the servers that were found, of which some were bound and the others were
not. -/
structure Accounted (w : World) (services : List Store.Service) (rows : List Store.Binding)
    (pass : Pass) (asked : List Asked) (report : ResyncReport)
    (bound unbound : List (String × Desired)) (w' : World) (services' : List Store.Service)
    (rows' : List Store.Binding) : Prop where
  coherent : Coherent w' services' rows'
  /-- A server was sought on account of every port that asks for one. -/
  all : asked.map (fun a => (a.port, a.switchId)) = seekers w.catalog w.switch? w.catalog.ports
  stands : ∀ a ∈ asked, a.Stands services services'
  made : report.serversCreated = asked.countP (·.made)
  found : report.serversReused = asked.countP (·.found)
  missed : report.serversFailed = asked.countP (·.failed)
  /-- The switches for which a server was found are those for which one was had. -/
  behind : ∀ s, pass.hasServer s = true ↔ ∃ a ∈ asked, a.switchId = s ∧ a.failed = false
  tried : (bound ++ unbound).Perm (pass.pairs w.catalog w.switch?)
  created : report.bindingsCreated = bound.length
  failed : report.bindingsFailed = unbound.length
  /-- A pair that was bound has a row, and the controller holds what the row says under a name that
  was not in use before. -/
  rows_bound : ∀ e ∈ bound, ∃ b ∈ rows', (b.portId, ⟨b.subnetId, b.address, b.macAddress⟩) = e ∧
    heldFor b ∈ w'.controller.bindings ∧ ∀ h ∈ w.controller.bindings, h.id ≠ b.bindingId
  rows_unbound : ∀ e ∈ unbound, Table.find? Store.Binding.key (spot e) rows'
    = Table.find? Store.Binding.key (spot e) rows
  rows_others : ∀ k, (∀ e ∈ pass.pairs w.catalog w.switch?, spot e ≠ k) →
    Table.find? Store.Binding.key k rows' = Table.find? Store.Binding.key k rows

/-- All ports that ask for a server are counted. -/
theorem length_seekers (c : Catalog) (switch? : String → Option String) (ports : List Port) :
    (seekers c switch? ports).length
      = (ports.filter fun p => (soughtAt? c switch? p).isSome).length := by
  rw [seekers, List.length_filterMap_eq_countP, List.countP_eq_length_filter]
  refine congrArg _ (List.filter_congr fun p _ => ?_)
  rw [Option.isSome_map]

section Accounted

variable {services services' : List Store.Service} {rows rows' : List Store.Binding} {pass : Pass}
  {asked : List Asked} {report : ResyncReport} {bound unbound : List (String × Desired)}
  {w' : World}

theorem Accounted.servers_total
    (accounted : Accounted w services rows pass asked report bound unbound w' services' rows') :
    report.serversCreated + report.serversReused + report.serversFailed
      = (w.catalog.ports.filter fun p => (soughtAt? w.catalog w.switch? p).isSome).length := by
  rw [accounted.made, accounted.found, accounted.missed, Asked.countP_add, ← length_seekers,
    ← accounted.all, List.length_map]

theorem Accounted.bindings_total
    (accounted : Accounted w services rows pass asked report bound unbound w' services' rows') :
    report.bindingsCreated + report.bindingsFailed = (pass.pairs w.catalog w.switch?).length := by
  rw [accounted.created, accounted.failed, ← List.length_append, accounted.tried.length_eq]

end Accounted

section Finished

variable {settings : Settings} {pass : Pass} {made binds : List Act} {between : Ledger}
  {report : ResyncReport}

theorem Finished.builds (finished : Finished w l settings pass made binds between report l') :
    ∀ a ∈ made ++ binds, a.Builds := fun a ha =>
  (List.mem_append.mp ha).elim (builds_of_served finished.toured.serves a) (finished.aims.builds a)

theorem Finished.linked (linked : l.Linked)
    (finished : Finished w l settings pass made binds between report l') : l'.Linked :=
  (finished.path.append finished.path').linked linked

theorem Finished.agreed (linked : l.Linked) (agreed : l.Agreed)
    (finished : Finished w l settings pass made binds between report l') : l'.Agreed := by
  refine (finished.path.append finished.path').agreed_of_free linked (fun a ha b c d clash => ?_)
    agreed
  have builds := finished.builds a ha
  rw [clash] at builds
  exact builds

theorem Finished.services_eq (finished : Finished w l settings pass made binds between report l') :
    l'.services = between.services :=
  finished.path'.services_eq fun a ha =>
    let ⟨b, _, aim⟩ := finished.aims.1 a ha
    Or.inr ⟨b, aim⟩

/-- The rows after a pass, if no pair is bound twice: one for each pair that is bound, with a name
that was not in use, and all others as they were. -/
theorem Finished.rows (linked : l.Linked)
    (finished : Finished w l settings pass made binds between report l')
    (keyed : Table.Keyed (fun b => spot b.2) (binds.filterMap Act.bound?)) :
    (∀ b ∈ binds.filterMap Act.bound?, ∃ row ∈ l'.rows, entry row = written b ∧
      ∀ h ∈ l.held, h.id ≠ row.bindingId) ∧
    ∀ k, (∀ b ∈ binds.filterMap Act.bound?, spot b.2 ≠ k) →
      Table.find? Store.Binding.key k l'.rows = Table.find? Store.Binding.key k l.rows := by
  have became := (finished.path.append finished.path').spared_or_rebound finished.builds
  rw [wrote_made_then_bound finished.toured.serves] at became
  -- a row that is bound anew is that of the pair with its key
  have origin : ∀ {row : Store.Binding} {k : String × IPv4},
      Table.find? Store.Binding.key k l'.rows = some row →
      entry row ∈ (binds.filterMap Act.bound?).map written →
      ∃ b ∈ binds.filterMap Act.bound?, written b = entry row ∧ spot b.2 = k := by
    intro row k found wrote
    obtain ⟨b, hb, same⟩ := List.mem_map.mp wrote
    exact ⟨b, hb, same, (congrArg place same).trans (Table.mem_of_find? found).2⟩
  refine ⟨fun b hb => ?_, fun k other => ?_⟩
  · rcases became (spot b.2) with ⟨none, -⟩ | ⟨row, n, found, wrote, new, name⟩
    · exact absurd rfl (none (written b) (List.mem_map.mpr ⟨b, hb, rfl⟩))
    · obtain ⟨b', hb', same, here⟩ := origin found wrote
      cases keyed.eq_of_key hb' hb here
      refine ⟨row, (Table.mem_of_find? found).1, same.symm, fun h hh => ?_⟩
      rw [name]
      exact linked.held_new n new h hh
  · rcases became k with ⟨-, same⟩ | ⟨row, n, found, wrote, -, -⟩
    · exact same
    · obtain ⟨b, hb, -, here⟩ := origin found wrote
      exact absurd here (other b hb)

/-- A pass that has come to its end, by what it counts. -/
theorem Finished.accounted {w' : World} {services : List Store.Service}
    {rows : List Store.Binding} (coherent : Coherent w services rows)
    (finished : Finished w (Coherent.ledgerOf w services rows) settings pass made binds between
      report l')
    (shows' : w'.Shows l') (once : Table.Keyed Port.id w.catalog.ports)
    (distinct : ∀ p ∈ w.catalog.ports, (p.ipv4s.map (·.2)).Nodup) :
    ∃ asked bound unbound,
      Accounted w services rows pass asked report bound unbound w' l'.services l'.rows := by
  have switches : (Coherent.ledgerOf w services rows).switch? = w.switch? :=
    coherent.shows.switch?_eq
  have linked' := finished.linked coherent.linked
  have agreed' := finished.agreed coherent.linked coherent.agreed
  obtain ⟨asked, tallied⟩ := finished.tallied
  obtain ⟨lost, parts, rfl⟩ := finished.tried
  have counted := tallied.report_eq (binds.filterMap Act.bound?).length lost.length
  -- each pair was tried once, so those that were bound are apart from those that were not
  have tried : ((binds.filterMap Act.bound?).map (·.2) ++ lost.map (·.2)).Perm
      (pass.pairs w.catalog w.switch?) := by
    rw [← List.map_append, ← switches]
    exact (parts.map _).trans (finished.toured.binds_perm once)
  have keyed := (keyed_pairs once distinct w.switch?).perm tried.symm
  rw [Table.Keyed, List.map_append] at keyed
  obtain ⟨keyed_bound, -, apart⟩ := List.nodup_append.mp keyed
  rw [List.map_map] at keyed_bound
  obtain ⟨there, others⟩ := finished.rows coherent.linked keyed_bound
  refine ⟨asked, (binds.filterMap Act.bound?).map (·.2), lost.map (·.2), ?_⟩
  exact {
    coherent := .of_ledger shows' linked' agreed'
    all := switches ▸ tallied.all
    stands := by
      rw [finished.services_eq]
      exact tallied.stands
    made := by rw [counted]
    found := by rw [counted]
    missed := by rw [counted]
    behind := by
      intro s
      rw [Pass.hasServer, tallied.servers, Asked.isSome_foldl_among]
      exact or_iff_right Bool.false_ne_true
    tried := tried
    created := by rw [counted, List.length_map]
    failed := by rw [counted, List.length_map]
    rows_bound := by
      intro e he
      obtain ⟨b, hb, rfl⟩ := List.mem_map.mp he
      obtain ⟨row, hr, wrote, new⟩ := there b hb
      refine ⟨row, hr, congrArg Prod.snd wrote, ?_, new⟩
      rw [shows'.controller.bindings_eq]
      exact agreed' row hr
    rows_unbound := by
      intro e he
      refine others (spot e) fun b hb same => ?_
      exact apart _ (List.mem_map.mpr ⟨b.2, List.mem_map.mpr ⟨b, hb, rfl⟩, rfl⟩) _
        (List.mem_map.mpr ⟨e, he, rfl⟩) same
    rows_others := by
      intro k other
      refine others k fun b hb => other b.2 (tried.subset ?_)
      exact List.mem_append_left _ (List.mem_map.mpr ⟨b, hb, rfl⟩) }

end Finished

/-- A pass comes to its end if the settings allow it, the catalog can be reached and the switches
behind networks can be looked up, whatever calls fail. -/
theorem resync_finished (shows : w.Shows l) (linked : l.Linked) {settings : Settings}
    {profileId : Option String}
    (valid : (settings.withDhcpProfile profileId).validateResync = .ok ())
    (networks : l.networks ≠ none) (reachable : w.Reachable)
    (timely : ((resync settings profileId).runIn w).2.clock.Legible) :
    ∃ report pass made binds between l',
      ((resync settings profileId).runIn w).1 = .ok report ∧
      surveyed settings profileId w = .ok pass ∧
      ((resync settings profileId).runIn w).2.Shows l' ∧
      w.Accounts (made ++ binds) ((resync settings profileId).runIn w).2 ∧
      Finished w l (settings.withDhcpProfile profileId) pass made binds between report l' := by
  obtain ⟨acts, l', -, shows', accounts, came⟩ :=
    goes_resync_report shows linked settings profileId timely
  cases result : ((resync settings profileId).runIn w).1 with
  | error e =>
      rw [result] at came
      exact absurd (came.2 valid reachable) networks
  | ok report =>
      rw [result] at came
      obtain ⟨pass, made, binds, between, found, rfl, finished⟩ := came
      exact ⟨report, pass, made, binds, between, l', rfl, found, shows', accounts, finished⟩

/-- What a rebuild asks of the settings. -/
theorem validateResync_iff {settings : Settings} : settings.validateResync = .ok () ↔
    settings.nativeDhcp = true ∧ settings.agentNotification = false ∧
      ∃ id, settings.dhcpProfile = .ok id := by
  rw [Settings.validateResync]
  constructor
  · intro valid
    cases native : settings.nativeDhcp with
    | false =>
        rw [native] at valid
        cases valid
    | true =>
        cases notified : settings.agentNotification with
        | true =>
            rw [native, notified] at valid
            cases valid
        | false =>
            cases profile : settings.dhcpProfile with
            | error e =>
                rw [native, notified, profile] at valid
                cases valid
            | ok id => exact ⟨rfl, rfl, id, rfl⟩
  · rintro ⟨native, unnotified, id, profile⟩
    rw [native, unnotified, profile]
    rfl

/-- Whatever calls fail, a pass comes to its end, and it counts every port that asks for a server
and every pair behind a server once. Each pair that is counted as created is bound, by a binding
that is new; all other rows are as they were. -/
theorem resync_accounts {services : List Store.Service} {rows : List Store.Binding}
    (coherent : Coherent w services rows) (settings : Settings) (profileId : Option String)
    (native : settings.nativeDhcp = true) (unnotified : settings.agentNotification = false)
    (profile : ∃ id, (settings.withDhcpProfile profileId).dhcpProfile = .ok id)
    (once : (w.catalog.ports.map (·.id)).Nodup)
    (distinct : ∀ p ∈ w.catalog.ports, (p.ipv4s.map (·.2)).Nodup)
    (networks : w.store.networks ≠ none) (reachable : w.Reachable)
    (timely : ((resync settings profileId).runIn w).2.clock.Legible) :
    ∃ report pass asked bound unbound services' rows',
      ((resync settings profileId).runIn w).1 = .ok report ∧
      surveyed settings profileId w = .ok pass ∧
      report.serversCreated + report.serversReused + report.serversFailed
        = (w.catalog.ports.filter fun p => (soughtAt? w.catalog w.switch? p).isSome).length ∧
      report.bindingsCreated + report.bindingsFailed
        = (pass.pairs w.catalog w.switch?).length ∧
      Accounted w services rows pass asked report bound unbound
        ((resync settings profileId).runIn w).2 services' rows' := by
  have valid : (settings.withDhcpProfile profileId).validateResync = .ok () := by
    refine validateResync_iff.mpr ⟨?_, ?_, profile⟩
    · cases profileId <;> exact native
    · cases profileId <;> exact unnotified
  obtain ⟨report, pass, made, binds, between, l', ok, surveyed, shows', -, finished⟩ :=
    resync_finished coherent.shows coherent.linked valid networks reachable timely
  obtain ⟨asked, bound, unbound, accounted⟩ := finished.accounted coherent shows' once distinct
  exact ⟨report, pass, asked, bound, unbound, l'.services, l'.rows, ok, surveyed,
    accounted.servers_total, accounted.bindings_total, accounted⟩

namespace Sample

/-- The port of another instance. -/
def otherPort : Port :=
  ⟨"other-port", "net", "", "fa:16:3e:00:00:06", "compute:nova",
    [⟨"subnet", .v4 ⟨10, 0, 0, 6⟩⟩]⟩

/-- The other instance has come, no event has told of it, and the next removal of a binding is
lost. -/
def hamperedBeside : World :=
  { hampered with catalog := { catalog with ports := [dhcpPort, instancePort, otherPort] } }

end Sample

/-- The first network is rebuilt though a binding cannot be removed. The server is there, one pair is
lost with the removal, and the other one is bound. -/
theorem hampered_pass_accounts : ∃ services rows, Coherent Sample.hamperedBeside services rows ∧
    ((resync Sample.settings none).runIn Sample.hamperedBeside).1 = .ok ⟨0, 1, 0, 1, 1⟩ ∧
    ∃ pass asked made lost services' rows',
      Accounted Sample.hamperedBeside services rows pass asked ⟨0, 1, 0, 1, 1⟩ [made] [lost]
        ((resync Sample.settings none).runIn Sample.hamperedBeside).2 services' rows' := by
  obtain ⟨services, rows, bound⟩ := Sample.coherent_bound
  have coherent : Coherent Sample.hamperedBeside services rows := { bound with }
  have run : ((resync Sample.settings none).runIn Sample.hamperedBeside).1.toOption
      = some ⟨0, 1, 0, 1, 1⟩ := by decide +kernel
  obtain ⟨report, pass, asked, done, undone, services', rows', ok, -, -, -, accounted⟩ :=
    resync_accounts coherent Sample.settings none rfl rfl ⟨_, rfl⟩
      (by decide) (by decide) (by decide +kernel)
      ((Sample.calm.follows Sample.follows_served).follows (follows_runIn _ _)).reachable
      (by show Clock.Legible _; decide +kernel)
  rw [ok] at run
  cases run
  obtain ⟨made, rfl⟩ := List.length_eq_one_iff.mp accounted.created.symm
  obtain ⟨lost, rfl⟩ := List.length_eq_one_iff.mp accounted.failed.symm
  exact ⟨services, rows, coherent, ok, pass, asked, made, lost, services', rows', accounted⟩

end Overlay.Dhcp
