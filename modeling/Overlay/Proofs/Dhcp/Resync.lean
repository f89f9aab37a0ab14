import Overlay.Proofs.Dhcp.Tour

/-!
# What a rebuilding pass does

The second half of a pass takes the switches in order and binds the addresses that were collected
behind each on the server found for it. An address that cannot be bound does not keep the others
from being bound. A pass takes nothing away, whatever fails: every act makes a server, or a binding
for an address of a port of the catalog on the server of a network with the port's switch.

Main statements: `goes_resync`, `Rebuilt.sourced`.
-/

namespace Overlay.Dhcp

open Overlay.Handler

variable {w : World} {l : Ledger} {c : Catalog}

/-! ## The addresses that were collected -/

/-- What comes of these bindings, one after the other, whatever fails: all of them if nothing
does. -/
def Aims (w : World) (binds : List (Store.Service × String × Desired)) (acts : List Act) : Prop :=
  (∀ a ∈ acts, ∃ b ∈ binds, a.aim? = some b) ∧ (w.Calm → acts.filterMap Act.bound? = binds)

theorem Aims.nil (w : World) : Aims w [] [] := ⟨fun _ ha => (nomatch ha), fun _ => rfl⟩

/-- Addresses are aimed at one list after the other. -/
theorem Aims.append {w' : World} {binds binds' : List (Store.Service × String × Desired)}
    {acts more : List Act} (f : w.Follows w') (h : Aims w binds acts) (h' : Aims w' binds' more) :
    Aims w (binds ++ binds') (acts ++ more) := by
  constructor
  · intro a ha
    rcases List.mem_append.mp ha with early | late
    · obtain ⟨b, hb, aim⟩ := h.1 a early
      exact ⟨b, List.mem_append_left _ hb, aim⟩
    · obtain ⟨b, hb, aim⟩ := h'.1 a late
      exact ⟨b, List.mem_append_right _ hb, aim⟩
  · intro calm
    rw [List.filterMap_append, h.2 calm, h'.2 (calm.follows f)]

/-- Acts that aim at addresses build. -/
theorem Aims.builds {binds : List (Store.Service × String × Desired)} {acts : List Act}
    (h : Aims w binds acts) : ∀ a ∈ acts, a.Builds := fun a ha =>
  let ⟨_, _, aim⟩ := h.1 a ha
  .of_aim aim

/-- What was aimed at is the same, seen from earlier surroundings. -/
theorem Aims.follows {w' : World} {binds : List (Store.Service × String × Desired)}
    {acts : List Act} (f : w.Follows w') (h : Aims w' binds acts) : Aims w binds acts :=
  ⟨h.1, fun calm => h.2 (calm.follows f)⟩

/-- Where every act is a binding with its row, none is left out. -/
theorem filterMap_of_map {acts : List Act} {bs : List (Store.Service × String × Desired)}
    (h : acts.map Act.bound? = bs.map some) : acts.filterMap Act.bound? = bs := by
  calc acts.filterMap Act.bound? = (acts.map Act.bound?).filterMap id := by
        rw [List.filterMap_map]
        rfl
    _ = (bs.map some).filterMap id := by rw [h]
    _ = bs := by rw [List.filterMap_map, Function.id_comp, List.filterMap_some]

/-- Binding an address aims at it. -/
theorem Bound.aims {x : Store.Service} {portId : String} {d : Desired} {r : Except Error Unit}
    {acts : List Act} (bound : Bound w x portId d r acts) : Aims w [(x, portId, d)] acts := by
  obtain ⟨aimed, done⟩ := bound.single
  refine ⟨fun a ha => ?_, fun calm => ?_⟩
  · obtain ⟨d', hd, aim⟩ := aimed a ha
    cases List.mem_singleton.mp hd
    exact ⟨_, List.mem_singleton_self _, aim⟩
  · cases r with
    | ok u => exact filterMap_of_map done
    | error e => exact absurd calm done

/-- The report with so many more bindings. -/
def ResyncReport.withBindings (r : ResyncReport) (created failed : Nat) : ResyncReport :=
  { r with
    bindingsCreated := r.bindingsCreated + created
    bindingsFailed := r.bindingsFailed + failed }

/-- Each of these bindings was tried once: those that are made with their rows are counted as
created, and the others as failed. -/
def Tried (binds : List (Store.Service × String × Desired)) (report report' : ResyncReport)
    (acts : List Act) : Prop :=
  ∃ lost, (acts.filterMap Act.bound? ++ lost).Perm binds ∧
    report' = report.withBindings (acts.filterMap Act.bound?).length lost.length

theorem Tried.nil (report : ResyncReport) : Tried [] report report [] := ⟨[], .refl _, rfl⟩

/-- Addresses are tried one list after the other. -/
theorem Tried.append {binds binds' : List (Store.Service × String × Desired)}
    {report report' report'' : ResyncReport} {acts more : List Act}
    (h : Tried binds report report' acts) (h' : Tried binds' report' report'' more) :
    Tried (binds ++ binds') report report'' (acts ++ more) := by
  obtain ⟨lost, parts, rfl⟩ := h
  obtain ⟨lost', parts', rfl⟩ := h'
  refine ⟨lost ++ lost', ?_, ?_⟩
  · have middle : (more.filterMap Act.bound? ++ lost).Perm (lost ++ more.filterMap Act.bound?) :=
      List.perm_append_comm
    rw [List.filterMap_append]
    calc (acts.filterMap Act.bound? ++ more.filterMap Act.bound?) ++ (lost ++ lost')
        = acts.filterMap Act.bound? ++ (more.filterMap Act.bound? ++ lost ++ lost') := by
          simp only [List.append_assoc]
      List.Perm _ (acts.filterMap Act.bound? ++ (lost ++ more.filterMap Act.bound? ++ lost')) :=
          (middle.append_right lost').append_left _
      _ = (acts.filterMap Act.bound? ++ lost) ++ (more.filterMap Act.bound? ++ lost') := by
          simp only [List.append_assoc]
      List.Perm _ (binds ++ binds') := parts.append parts'
  · simp only [ResyncReport.withBindings, List.filterMap_append, List.length_append,
      Nat.add_assoc]

/-- An address that was tried is counted by its answer. -/
theorem Bound.tried {x : Store.Service} {portId : String} {d : Desired} {r : Except Error Unit}
    {acts : List Act} (bound : Bound w x portId d r acts) (report : ResyncReport) :
    Tried [(x, portId, d)] report (report.withBinding r) acts := by
  rcases r with e | u
  · obtain ⟨-, rfl | ⟨e', rfl⟩⟩ := bound <;> exact ⟨[(x, portId, d)], .refl _, rfl⟩
  · obtain ⟨time, m, rfl⟩ := bound
    exact ⟨[], .refl _, rfl⟩

/-- The bindings for the addresses behind a switch, on the server found for it. -/
def groupBinds (servers : List SwitchServer) (group : SwitchGroup) :
    List (Store.Service × String × Desired) :=
  match Table.find? SwitchServer.switchId group.switchId servers with
  | some s => group.entries.map fun e => (s.service, e)
  | none => []

/-- What is bound for a group is one of its entries, on a server behind its switch. -/
theorem mem_groupBinds {servers : List SwitchServer} {group : SwitchGroup}
    {b : Store.Service × String × Desired} (h : b ∈ groupBinds servers group) :
    ∃ s ∈ servers, s.switchId = group.switchId ∧ b.1 = s.service ∧ b.2 ∈ group.entries := by
  rw [groupBinds] at h
  cases found : Table.find? SwitchServer.switchId group.switchId servers with
  | none =>
      rw [found] at h
      exact nomatch h
  | some s =>
      rw [found] at h
      obtain ⟨e, he, rfl⟩ := List.mem_map.mp h
      obtain ⟨hs, same⟩ := Table.mem_of_find? found
      exact ⟨s, hs, same, rfl, he⟩

/-- All addresses of a group are tried, on the server of its switch. -/
theorem goes_bindGroup (shows : w.Shows l) (linked : l.Linked) (settings : Settings)
    {servers : List SwitchServer} (there : ∀ s ∈ servers, s.service ∈ l.services)
    (report : ResyncReport) (group : SwitchGroup) :
    (bindGroup settings servers report group).Goes w l fun r acts _ =>
      Aims w (groupBinds servers group) acts ∧ ∃ report', r = .ok report' ∧
        Tried (groupBinds servers group) report report' acts := by
  rw [bindGroup, groupBinds]
  cases found : Table.find? SwitchServer.switchId group.switchId servers with
  | none => exact Goes.pure shows ⟨.nil w, report, rfl, .nil report⟩
  | some s =>
      have hx := there s (Table.mem_of_find? found).1
      refine Goes.locked ?_
      refine Goes.foldlM shows linked
        (fun done report' acts _ => Aims w (done.map fun e => (s.service, e)) acts ∧
          Tried (done.map fun e => (s.service, e)) report report' acts) (fun _ _ => False)
        ⟨.nil w, .nil report⟩ ?_
        (fun report' acts l' ⟨aims, tried⟩ => ⟨aims, report', rfl, tried⟩)
        fun e acts l' never => never.elim
      rintro done e report' acts l' w' - follows shows' linked' path ⟨aims, tried⟩
      have hx' := path.mem_services aims.builds hx
      refine Goes.bind linked' (Goes.attempt (T := fun r more _ => ∃ r', r = .ok r' ∧
        Bound w' s.service e.1 e.2 r' more) (Goes.mono
          (goes_bindAddress shows' linked' hx' settings e.1 e.2) fun r more l'' _ bound =>
            ⟨r, rfl, bound⟩)) ?_ ?_
      · rintro result more l'' w'' - shows'' - - ⟨r', same, bound⟩
        cases same
        refine Goes.pure shows'' ?_
        show Aims w ((done ++ [e]).map _) _ ∧ Tried ((done ++ [e]).map _) _ _ _
        rw [List.append_nil, List.map_append]
        exact ⟨aims.append follows bound.aims, tried.append (bound.tried report')⟩
      · rintro e' more l'' - ⟨r', none, -⟩
        exact nomatch none

/-- All addresses of all groups are tried. -/
theorem goes_bindGroups (shows : w.Shows l) (linked : l.Linked) (settings : Settings)
    {servers : List SwitchServer} (there : ∀ s ∈ servers, s.service ∈ l.services)
    (report : ResyncReport) (groups : List SwitchGroup) :
    (groups.foldlM (bindGroup settings servers) report).Goes w l fun r acts _ =>
      Aims w (groups.flatMap (groupBinds servers)) acts ∧ ∃ report', r = .ok report' ∧
        Tried (groups.flatMap (groupBinds servers)) report report' acts := by
  refine Goes.foldlM shows linked
    (fun done report' acts _ => Aims w (done.flatMap (groupBinds servers)) acts ∧
      Tried (done.flatMap (groupBinds servers)) report report' acts) (fun _ _ => False)
    ⟨.nil w, .nil report⟩ ?_ (fun report' acts l' ⟨aims, tried⟩ => ⟨aims, report', rfl, tried⟩)
    fun e acts l' never => never.elim
  rintro done group report' acts l' w' - follows shows' linked' path ⟨aims, tried⟩
  have there' : ∀ s ∈ servers, s.service ∈ l'.services := fun s hs =>
    path.mem_services aims.builds (there s hs)
  refine Goes.mono (goes_bindGroup shows' linked' settings there' report' group) ?_
  rintro r more l'' - ⟨here, report'', rfl, here'⟩
  show Aims w ((done ++ [group]).flatMap _) _ ∧ Tried ((done ++ [group]).flatMap _) _ _ _
  rw [List.flatMap_append, List.flatMap_singleton]
  exact ⟨aims.append follows here, tried.append here'⟩

/-! ## The whole pass -/

/-- What a pass comes to: servers for DHCP ports first, and then bindings of what was collected; or
no bindings since something failed or the settings forbid it. -/
def Rebuilt (w : World) (l : Ledger) (settings : Settings) (acts : List Act) (l' : Ledger) : Prop :=
  (∃ pass made binds between, acts = made ++ binds ∧ Path l made between ∧
    Path between binds l' ∧ Toured w l settings w.catalog.ports pass made between ∧
      Aims w ((orderedGroups pass.groups).flatMap (groupBinds pass.servers)) binds) ∨
  ((∀ a ∈ acts, ∃ s, a.served? = some s) ∧
    ¬ (Smooth w l ∧ settings.validateResync = .ok ()))

/-- What a pass remembers when it has gone through the ports and has yet to bind the first
address. -/
def surveyed (settings : Settings) (profileId : Option String) (w : World) : Except Error Pass :=
  ((w.catalog.ports.foldlM (passPort (settings.withDhcpProfile profileId)) .start).runIn
    (w.query .ports).2).1

/-- A pass that has come to its end: servers were made for its DHCP ports, and then bindings of what
it had collected were tried. -/
structure Finished (w : World) (l : Ledger) (settings : Settings) (pass : Pass)
    (made binds : List Act) (between : Ledger) (report : ResyncReport) (l' : Ledger) : Prop where
  path : Path l made between
  path' : Path between binds l'
  toured : Toured w l settings w.catalog.ports pass made between
  tallied : ∃ asked, Tallied w l settings w.catalog.ports pass made between asked
  aims : Aims w ((orderedGroups pass.groups).flatMap (groupBinds pass.servers)) binds
  tried : Tried ((orderedGroups pass.groups).flatMap (groupBinds pass.servers)) pass.report report
    binds

/-- What a pass reports is what it has done. -/
theorem goes_resync_report (shows : w.Shows l) (linked : l.Linked) (settings : Settings)
    (profileId : Option String) :
    (resync settings profileId).Goes w l fun r acts l' =>
      match r with
      | .ok report => ∃ pass made binds between, surveyed settings profileId w = .ok pass ∧
        acts = made ++ binds ∧
          Finished w l (settings.withDhcpProfile profileId) pass made binds between report l'
      | .error _ => (∀ a ∈ acts, ∃ s, a.served? = some s) ∧
        ((settings.withDhcpProfile profileId).validateResync = .ok () → w.Reachable →
          l.networks = none) := by
  have no_acts : ∀ a ∈ ([] : List Act), ∃ s, a.served? = some s := fun a ha => nomatch ha
  refine Ends.bind (Ends.ran (quiet_setting shows _)) ?_ ?_
  case refine_2 =>
    rintro e w1 - ⟨-, shows1, loses1, invalid⟩
    refine ⟨[], l, .nil l, shows1, .nil loses1, no_acts, fun valid => ?_⟩
    rw [valid] at invalid
    exact nomatch invalid
  rintro _ w1 - ⟨ran, -⟩
  rw [runIn_setting] at ran
  cases congrArg Prod.snd ran
  refine Ends.bind (Ends.ran (quiet_lookUp shows .ports)) ?_ ?_
  case refine_2 =>
    rintro e w2 - ⟨-, shows2, loses2, away⟩
    exact ⟨[], l, .nil l, shows2, .nil loses2, no_acts, fun _ reachable => absurd reachable away⟩
  rintro ports w2 follows2 ⟨ran, shows2, loses2, rfl⟩
  have counted : w2 = (w.query .ports).2 := (congrArg Prod.snd ran).symm
  refine Goes.resume (.nil l) follows2 (.nil loses2) ?_
  refine Goes.bind linked (Goes.ran (goes_passPorts shows2 linked _ _)) ?_ ?_
  · rintro pass made between w3 follows3 shows3 linked3 path ⟨ran, toured, asked, tallied⟩
    refine Goes.bind linked3 (goes_bindGroups shows3 linked3 settings
      (fun s hs => (toured.sound s hs).1) _ _) ?_ ?_
    · rintro report binds l' w4 - shows4 - path' ⟨aims, report', same, tried⟩
      cases same
      refine Goes.quiet (quiet_report shows4 _) ?_ fun e none => nomatch none
      rintro _ w5 - shows5 -
      refine Goes.pure shows5 ?_
      have found : surveyed settings profileId w = .ok pass := by
        rw [surveyed, ← counted]
        exact ran
      refine ⟨pass, made, binds, between, found, by rw [List.append_nil, List.nil_append], path,
        path', toured.follows follows2, ⟨asked, tallied.follows follows2⟩,
        aims.follows (follows2.trans follows3), tried⟩
    · rintro e binds l' - ⟨-, report, none, -⟩
      exact nomatch none
  -- the ports could not be gone through, so nothing is bound
  · rintro e made between - ⟨-, serves, gone⟩
    exact ⟨serves, fun _ reachable => gone (reachable.follows follows2)⟩

/-- What a resync leaves, whatever is lost meanwhile. -/
theorem goes_resync (shows : w.Shows l) (linked : l.Linked) (settings : Settings)
    (profileId : Option String) :
    (resync settings profileId).Goes w l fun _ acts l' =>
      Rebuilt w l (settings.withDhcpProfile profileId) acts l' := by
  refine Goes.mono (goes_resync_report shows linked settings profileId) ?_
  rintro (e | report) acts l' - came
  · exact Or.inr ⟨came.1, fun h => h.1.networks (came.2 h.2 h.1.calm.reachable)⟩
  · obtain ⟨pass, made, binds, between, -, rfl, finished⟩ := came
    exact Or.inl ⟨pass, made, binds, between, rfl, finished.path, finished.path', finished.toured,
      finished.aims⟩

/-- An address that was collected is one of a port behind the switch. -/
theorem mem_collected {switch? : String → Option String} {switchId : String}
    {ports : List Port} {e : String × Desired} (he : e ∈ collected c switch? switchId ports) :
    ∃ p ∈ ports, switch? p.networkId = some switchId ∧ p.id = e.1 ∧ e.2.Of p := by
  obtain ⟨p, hp, he⟩ := List.mem_flatMap.mp he
  obtain ⟨hp, here⟩ := List.mem_filter.mp hp
  obtain ⟨f, hf, rfl⟩ := List.mem_map.mp he
  rw [Bool.and_eq_true, decide_eq_true_iff] at here
  exact ⟨p, hp, here.2, rfl, (List.mem_filter.mp hf).1, rfl⟩

/-- A group is what was collected behind its switch. -/
theorem Toured.entries_eq {settings : Settings} {ports : List Port} {pass : Pass}
    {acts : List Act} {l' : Ledger} (toured : Toured w l settings ports pass acts l')
    {group : SwitchGroup} (hg : group ∈ pass.groups) :
    group.entries = collected w.catalog l.switch? group.switchId ports := by
  rw [← toured.entries, Pass.entriesAt, toured.keyed.find? hg]

/-- A pass takes nothing away, and binds what is in the catalog. -/
theorem Rebuilt.sourced {settings : Settings} {acts : List Act} {l' : Ledger}
    (rebuilt : Rebuilt w l settings acts l') :
    ∀ a ∈ acts, a.Builds ∧ a.Sourced w.catalog.ports l.switch? := by
  have served : ∀ a : Act, (∃ s, a.served? = some s) →
      a.Builds ∧ a.Sourced w.catalog.ports l.switch? := by
    rintro a ⟨s, made⟩
    cases a <;> first | exact ⟨trivial, trivial⟩ | exact nomatch made
  rcases rebuilt with ⟨pass, made, binds, between, rfl, path, path', toured, aims⟩ | ⟨serves, -⟩
  · intro a ha
    rcases List.mem_append.mp ha with early | late
    · exact served a (toured.serves a early)
    · obtain ⟨⟨x, e⟩, hb, aim⟩ := aims.1 a late
      obtain ⟨group, hg, hb⟩ := List.mem_flatMap.mp hb
      have hg := List.mem_mergeSort.mp hg
      obtain ⟨s, hs, switch, rfl, he⟩ := mem_groupBinds hb
      rw [toured.entries_eq hg] at he
      obtain ⟨p, hp, here, id, own⟩ := mem_collected he
      have behind := (toured.sound s hs).2
      rw [path.switch?_eq, switch] at behind
      exact ⟨.of_aim aim, .of_aim aim ⟨p, hp, id, own, Or.inr ⟨_, behind, here⟩⟩⟩
  · exact fun a ha => served a (serves a ha)

/-! ## What is bound of each port -/

theorem tag_portEntries {p : Port} {e : String × Desired} (he : e ∈ portEntries c p) :
    e.1 = p.id := by
  obtain ⟨f, -, rfl⟩ := List.mem_map.mp he
  rfl

/-- Of what is collected behind a switch, the part of one port. -/
theorem collected_filter (keyed : Table.Keyed Port.id c.ports) (switch? : String → Option String)
    (switchId portId : String) :
    (collected c switch? switchId c.ports).filter (fun e => e.1 = portId)
      = match Table.find? Port.id portId c.ports with
        | some p => if p.isCompute && decide (switch? p.networkId = some switchId)
          then portEntries c p else []
        | none => [] := by
  rw [collected, keyed.filter_flatMap (f := portEntries c) _ fun p _ e => tag_portEntries]
  cases Table.find? Port.id portId c.ports <;> rfl

/-- What a pass binds of an instance port: its addresses, on the server found for the switch behind
its network. -/
def portBindings (servers : List SwitchServer) (switch? : String → Option String) (c : Catalog)
    (p : Port) : List (Store.Service × String × Desired) :=
  match (switch? p.networkId).bind fun s => Table.find? SwitchServer.switchId s servers with
  | some v => (portEntries c p).map fun e => (v.service, e)
  | none => []

/-- What a pass binds of a port for the addresses behind one switch: all of it if the switch is that
of the port's network, and nothing otherwise. -/
theorem groupBinds_filter (keyed : Table.Keyed Port.id c.ports) {switch? : String → Option String}
    (servers : List SwitchServer) {group : SwitchGroup}
    (entries : group.entries = collected c switch? group.switchId c.ports) (portId : String) :
    (groupBinds servers group).filter (fun b => b.2.1 = portId)
      = match Table.find? Port.id portId c.ports with
        | some p => if p.isCompute && decide (switch? p.networkId = some group.switchId)
          then portBindings servers switch? c p else []
        | none => [] := by
  -- all entries of a group go to one server, so the port's share is cut out before
  have share : (groupBinds servers group).filter (fun b => b.2.1 = portId)
      = match Table.find? SwitchServer.switchId group.switchId servers with
        | some s => (group.entries.filter fun e => e.1 = portId).map fun e => (s.service, e)
        | none => [] := by
    rw [groupBinds]
    cases Table.find? SwitchServer.switchId group.switchId servers with
    | none => rfl
    | some s =>
        dsimp only
        rw [List.filter_map]
        rfl
  rw [share, entries, collected_filter keyed]
  cases Table.find? Port.id portId c.ports with
  | none => cases Table.find? SwitchServer.switchId group.switchId servers <;> rfl
  | some p =>
      dsimp only
      by_cases here : (p.isCompute && decide (switch? p.networkId = some group.switchId)) = true
      · have behind := of_decide_eq_true (Bool.and_eq_true_iff.mp here).2
        rw [if_pos here, if_pos here, portBindings, behind]
        rfl
      · rw [if_neg here, if_neg here]
        cases Table.find? SwitchServer.switchId group.switchId servers <;> rfl

/-- Without a group behind the switch of its network, nothing was collected of a port. -/
theorem Toured.entries_nil {settings : Settings} {pass : Pass} {acts : List Act} {l' : Ledger}
    (toured : Toured w l settings w.catalog.ports pass acts l')
    (keyed : Table.Keyed Port.id w.catalog.ports) {p : Port} (hp : p ∈ w.catalog.ports)
    (compute : p.isCompute = true) {switchId : String}
    (behind : l.switch? p.networkId = some switchId)
    (nowhere : ∀ g ∈ pass.groups, g.switchId ≠ switchId) : portEntries w.catalog p = [] := by
  have nothing := toured.entries switchId
  rw [Pass.entriesAt, Table.find?_eq_none_iff.mpr nowhere] at nothing
  have part := collected_filter keyed l.switch? switchId p.id
  rw [← nothing, keyed.find? hp] at part
  dsimp only at part
  rw [compute, behind, if_pos (by simp)] at part
  exact part.symm

/-- Of all that a pass binds, the part of one port. -/
theorem Toured.binds_filter {settings : Settings} {pass : Pass} {acts : List Act} {l' : Ledger}
    (toured : Toured w l settings w.catalog.ports pass acts l')
    (keyed : Table.Keyed Port.id w.catalog.ports) (portId : String) :
    ((orderedGroups pass.groups).flatMap (groupBinds pass.servers)).filter (fun b => b.2.1 = portId)
      = match Table.find? Port.id portId w.catalog.ports with
        | some p => if p.isCompute then portBindings pass.servers l.switch? w.catalog p else []
        | none => [] := by
  have ordered := List.mergeSort_perm pass.groups fun a b => a.switchId ≤ b.switchId
  have share : ∀ g ∈ orderedGroups pass.groups, _ = _ := fun g hg =>
    groupBinds_filter keyed pass.servers (toured.entries_eq (List.mem_mergeSort.mp hg)) portId
  rw [List.filter_flatMap, List.flatMap_def, List.map_congr_left share, ← List.flatMap_def]
  cases found : Table.find? Port.id portId w.catalog.ports with
  | none => exact List.flatMap_eq_nil_iff.mpr fun _ _ => rfl
  | some p =>
      have hp := (Table.mem_of_find? found).1
      dsimp only
      by_cases compute : p.isCompute = true
      case neg =>
        rw [if_neg compute]
        refine List.flatMap_eq_nil_iff.mpr fun g _ => if_neg fun h => ?_
        exact compute (Bool.and_eq_true_iff.mp h).1
      rw [if_pos compute]
      by_cases behind : ∃ g ∈ pass.groups, l.switch? p.networkId = some g.switchId
      -- of all groups only that behind the switch of the port's network has something for it
      · obtain ⟨g, hg, here⟩ := behind
        have keyed' := toured.keyed.perm ordered.symm
        rw [orderedGroups, keyed'.flatMap_eq (List.mem_mergeSort.mpr hg) fun g' hg' other => ?_,
          compute, here]
        · exact if_pos (by simp)
        · refine if_neg fun h => other ?_
          have same := of_decide_eq_true (Bool.and_eq_true_iff.mp h).2
          exact (Option.some.inj (here.symm.trans same)).symm
      -- no address of the port was collected, or its network has no switch
      · have nothing : portBindings pass.servers l.switch? w.catalog p = [] := by
          rw [portBindings]
          cases here : l.switch? p.networkId with
          | none => rfl
          | some switchId =>
              rw [toured.entries_nil keyed hp compute here fun g hg same =>
                behind ⟨g, hg, same ▸ here⟩]
              cases (some switchId).bind _ <;> rfl
        rw [nothing]
        exact List.flatMap_eq_nil_iff.mpr fun g _ => ite_self _

end Overlay.Dhcp
