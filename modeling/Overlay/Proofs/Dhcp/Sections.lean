import Overlay.Proofs.Dhcp.Resync

/-!
# The sections of a rebuilding pass

A pass holds a lock only while it makes sure of a network's server and while it binds the addresses
behind a switch. Between two such sections, and between two ports, others may come in. A `Stage` is
where a pass stands then, with all that it remembers, and `Stage.next` is its next section.

* `Stage.proceed_start`: with nobody in between, the sections are the pass itself.
* `Stage.goes_advance`: what a section does to the ledger. It takes nothing away, and binds only
  what was to be bound at the stage before it (`Stage.Awaits`).
-/

namespace Overlay.Dhcp

open Overlay.Handler

/-! ## Stages -/

/-- Where a pass stands between two sections. -/
inductive Stage where
  | start
  /-- These ports are still to be gone through. -/
  | visiting (ports : List Port) (pass : Pass)
  /-- The server of the network of `p` is to be found or made. -/
  | serving (s : Subnet) (p : Port) (switchId : String) (ports : List Port) (pass : Pass)
  /-- The addresses of these groups are still to be bound. -/
  | binding (groups : List SwitchGroup) (servers : List SwitchServer) (report : ResyncReport)
  | finished (result : Except Error ResyncReport)

namespace Stage

/-- One port without what is done for it under a lock. -/
def visit (p : Port) (ports : List Port) (pass : Pass) : Handler Stage :=
  match p.role with
  | .dhcp =>
    match p.ipv4s with
    | [] => return visiting ports pass
    | (subnetId, _) :: _ => do
      let (subnet, pass) ← pass.subnet subnetId
      match subnet, ← switchFor subnet p.networkId with
      | some s, some switchId => return serving s p switchId ports pass
      | _, _ => return visiting ports pass
  | .compute => do
    let pass ← passComputePort p pass
    return visiting ports pass
  | .other => return visiting ports pass

/-- What is done between a stage and the next one. -/
def advance (settings : Settings) (profileId : Option String) : Stage → Handler Stage
  | start => do
    Handler.setting (settings.withDhcpProfile profileId).validateResync
    let ports ← Handler.query .ports
    return visiting ports Pass.start
  | visiting [] pass => return binding (orderedGroups pass.groups) pass.servers pass.report
  | visiting (p :: ports) pass => visit p ports pass
  | serving s p switchId ports pass => do
    let r ← Handler.attempt (ensureService (settings.withDhcpProfile profileId) s p)
    return visiting ports (pass.noted switchId r)
  | binding (group :: groups) servers report => do
    let report ← bindGroup settings servers report group
    return binding groups servers report
  | binding [] _ report => do
    Handler.report (.resyncFinished (report.serversCreated + report.serversReused)
      report.bindingsCreated (report.serversFailed + report.bindingsFailed))
    return finished (.ok report)
  | finished r => return finished r

/-- The stage after the next section, and what the section leaves. -/
def next (settings : Settings) (profileId : Option String) (st : Stage) (w : World) :
    Stage × World :=
  match (st.advance settings profileId).runIn w with
  | (.ok st', w') => (st', w')
  | (.error e, w') => (finished (.error e), w')

/-- The stage after this many sections, with nobody in between. -/
def proceed (settings : Settings) (profileId : Option String) : Nat → Stage → World → Stage × World
  | 0, st, w => (st, w)
  | n + 1, st, w =>
    proceed settings profileId n (st.next settings profileId w).1 (st.next settings profileId w).2

/-- The report of a pass that has come to its end. -/
def report? : Stage → Option ResyncReport
  | finished (.ok report) => some report
  | _ => none

/-- A stage with a report is the end of a pass without an error. -/
theorem eq_finished_of_report? {st : Stage} {report : ResyncReport} (h : st.report? = some report) :
    st = finished (.ok report) := by
  cases st with
  | finished r =>
      cases r with
      | ok _ => exact congrArg _ (congrArg _ (Option.some.inj h))
      | error e => exact nomatch h
  | _ => exact nomatch h

/-! ## Sections and the whole pass -/

/-- What a pass does once all ports have been gone through. -/
def bindAll (settings : Settings) (groups : List SwitchGroup) (servers : List SwitchServer)
    (report : ResyncReport) : Handler ResyncReport := do
  let report ← groups.foldlM (bindGroup settings servers) report
  Handler.report (.resyncFinished (report.serversCreated + report.serversReused)
    report.bindingsCreated (report.serversFailed + report.bindingsFailed))
  return report

/-- What a pass does with these ports and then. -/
def visitAll (settings : Settings) (profileId : Option String) (ports : List Port) (pass : Pass) :
    Handler ResyncReport := do
  let pass ← ports.foldlM (passPort (settings.withDhcpProfile profileId)) pass
  bindAll settings (orderedGroups pass.groups) pass.servers pass.report

/-- What a pass that has come to a stage still does. -/
def rest (settings : Settings) (profileId : Option String) : Stage → Handler ResyncReport
  | start => resync settings profileId
  | visiting ports pass => visitAll settings profileId ports pass
  | serving s p switchId ports pass => do
    let r ← Handler.attempt (ensureService (settings.withDhcpProfile profileId) s p)
    visitAll settings profileId ports (pass.noted switchId r)
  | binding groups servers report => bindAll settings groups servers report
  | finished (.ok report) => return report
  | finished (.error e) => throw e

/-- What is left to do is the visit of the next port, and what is left after it. -/
theorem rest_visit (settings : Settings) (profileId : Option String) (p : Port) (ports : List Port)
    (pass : Pass) : rest settings profileId (visiting (p :: ports) pass)
      = visit p ports pass >>= rest settings profileId := by
  rw [rest, visitAll, List.foldlM_cons, passPort, visit]
  cases p.role with
  | dhcp =>
      dsimp only
      rw [passDhcpPort]
      cases p.ipv4s with
      | nil => simp only [pure_bind, rest, visitAll]
      | cons f more =>
          simp only [bind_assoc]
          refine congrArg _ (funext fun found => ?_)
          refine congrArg _ (funext fun switch => ?_)
          cases found.1 with
          | none => simp only [pure_bind, rest, visitAll]
          | some s =>
              cases switch with
              | none => simp only [pure_bind, rest, visitAll]
              | some switchId =>
                  simp only [pure_bind, bind_assoc, rest, visitAll]
                  refine congrArg _ (funext fun r => ?_)
                  cases r <;> simp only [pure_bind, Pass.noted]
  | compute => simp only [bind_assoc, pure_bind, rest, visitAll]
  | other => simp only [pure_bind, rest, visitAll]

/-- What is left to do is the next section and what is left after it. -/
theorem rest_section (settings : Settings) (profileId : Option String) (st : Stage)
    (going : ∀ r, st ≠ finished r) :
    st.rest settings profileId = st.advance settings profileId >>= rest settings profileId := by
  cases st with
  | start =>
      simp only [rest, advance, resync, visitAll, bindAll, bind_assoc, pure_bind]
  | visiting ports pass =>
      cases ports with
      | nil => simp only [rest, advance, visitAll, List.foldlM_nil, pure_bind]
      | cons p ports => exact rest_visit settings profileId p ports pass
  | serving s p switchId ports pass => simp only [rest, advance, bind_assoc, pure_bind]
  | binding groups servers report =>
      cases groups with
      | nil => simp only [rest, advance, bindAll, List.foldlM_nil, bind_assoc, pure_bind]
      | cons g groups => simp only [rest, advance, bindAll, List.foldlM_cons, bind_assoc, pure_bind]
  | finished r => exact absurd rfl (going r)

/-- Taking a section changes nothing about how the pass ends. -/
theorem runIn_rest (settings : Settings) (profileId : Option String) (st : Stage) (w : World) :
    (st.rest settings profileId).runIn w = ((st.next settings profileId w).1.rest settings
      profileId).runIn (st.next settings profileId w).2 := by
  by_cases going : ∀ r, st ≠ finished r
  · rw [rest_section settings profileId st going, runIn_bind, next]
    cases (st.advance settings profileId).runIn w with
    | mk r w' => cases r <;> rfl
  · obtain ⟨r, ended⟩ := Classical.not_forall.mp going
    rw [Classical.not_not.mp ended]
    rfl

/-- Whatever the handler is asked to do, a result of it has the property. -/
def Yields {α : Type} (h : Handler α) (P : α → Prop) : Prop :=
  ∀ w a, (h.runIn w).1 = .ok a → P a

theorem yields_pure {α : Type} {P : α → Prop} {a : α} (ha : P a) : Yields (pure a) P := by
  intro w b ok
  cases ok
  exact ha

theorem yields_bind {α β : Type} {P : β → Prop} {h : Handler α} {f : α → Handler β}
    (then_ : ∀ a, Yields (f a) P) : Yields (h >>= f) P := by
  intro w b ok
  rw [runIn_bind] at ok
  cases run : h.runIn w with
  | mk r w' =>
      rw [run] at ok
      cases r with
      | ok a => exact then_ a w' b ok
      | error e => exact nomatch ok

/-- A visit leads to the next port, or to the server of this port's network. -/
theorem yields_visit (p : Port) (ports : List Port) (pass : Pass) :
    Yields (visit p ports pass) fun st => ∃ pass', st = visiting ports pass' ∨
      ∃ s switchId, st = serving s p switchId ports pass' := by
  rw [visit]
  cases p.role with
  | dhcp =>
      cases p.ipv4s with
      | nil => exact yields_pure ⟨_, Or.inl rfl⟩
      | cons f more =>
          refine yields_bind fun found => yields_bind fun switch => ?_
          cases found.1 with
          | none => exact yields_pure ⟨_, Or.inl rfl⟩
          | some s =>
              cases switch with
              | none => exact yields_pure ⟨_, Or.inl rfl⟩
              | some switchId => exact yields_pure ⟨_, Or.inr ⟨s, switchId, rfl⟩⟩
  | compute => exact yields_bind fun pass' => yields_pure ⟨pass', Or.inl rfl⟩
  | other => exact yields_pure ⟨pass, Or.inl rfl⟩

/-- After some number of sections the pass is over, with the result and the surroundings that what
it still does has when it runs on its own. -/
def Concludes (settings : Settings) (profileId : Option String) (st : Stage) (w : World) : Prop :=
  ∃ n, st.proceed settings profileId n w = (finished ((st.rest settings profileId).runIn w).1,
    ((st.rest settings profileId).runIn w).2)

section Concludes

variable {settings : Settings} {profileId : Option String} {st : Stage} {w : World}

/-- A pass that is over concludes. -/
theorem concludes_finished (r : Except Error ResyncReport) :
    (finished r).Concludes settings profileId w := by
  refine ⟨0, ?_⟩
  cases r <;> rfl

/-- A pass concludes if it does so after its next section. -/
theorem concludes_next {P : Stage → Prop} (yields : Yields (st.advance settings profileId) P)
    (after : ∀ st' w', P st' → st'.Concludes settings profileId w') :
    st.Concludes settings profileId w := by
  have here : (st.next settings profileId w).1.Concludes settings profileId
      (st.next settings profileId w).2 := by
    have result := yields w
    rw [next]
    cases run : (st.advance settings profileId).runIn w with
    | mk r w' =>
        rw [run] at result
        cases r with
        | ok st' => exact after st' w' (result st' rfl)
        | error e => exact concludes_finished _
  -- one section more than from the next stage
  obtain ⟨n, ends⟩ := here
  rw [← runIn_rest] at ends
  exact ⟨n + 1, ends⟩

/-- A pass that only binds concludes. -/
theorem concludes_binding (groups : List SwitchGroup) (servers : List SwitchServer)
    (report : ResyncReport) : (binding groups servers report).Concludes settings profileId w := by
  induction groups generalizing report w with
  | nil =>
      refine concludes_next (P := fun st => st = finished (.ok report))
        (yields_bind fun _ => yields_pure rfl) ?_
      rintro _ w' rfl
      exact concludes_finished _
  | cons group groups ih =>
      refine concludes_next (P := fun st => ∃ report, st = binding groups servers report)
        (yields_bind fun report => yields_pure ⟨report, rfl⟩) ?_
      rintro _ w' ⟨report, rfl⟩
      exact ih report

/-- A pass that goes through ports concludes. -/
theorem concludes_visiting (ports : List Port) (pass : Pass) :
    (visiting ports pass).Concludes settings profileId w := by
  induction ports generalizing pass w with
  | nil =>
      refine concludes_next (P := fun st => st = _) (yields_pure rfl) ?_
      rintro _ w' rfl
      exact concludes_binding _ _ _
  | cons p ports ih =>
      refine concludes_next (yields_visit p ports pass) ?_
      rintro _ w' ⟨pass', rfl | ⟨s, switchId, rfl⟩⟩
      · exact ih pass'
      · refine concludes_next (P := fun st => ∃ pass, st = visiting ports pass)
          (yields_bind fun r => yields_pure ⟨_, rfl⟩) ?_
        rintro _ w' ⟨pass, rfl⟩
        exact ih pass

end Concludes

/-- The sections of a pass, one after the other with nobody in between, are the pass. -/
theorem proceed_start (settings : Settings) (profileId : Option String) (w : World) :
    ∃ n, start.proceed settings profileId n w = (finished ((resync settings profileId).runIn w).1,
      ((resync settings profileId).runIn w).2) := by
  have whole : start.Concludes settings profileId w := by
    refine concludes_next (P := fun st => ∃ ports, st = visiting ports Pass.start)
      (yields_bind fun _ => yields_bind fun ports => yields_pure ⟨ports, rfl⟩) ?_
    rintro _ w' ⟨ports, rfl⟩
    exact concludes_visiting ports _
  exact whole

/-! ## What a section does -/

/-- The ports that are still to be gone through. -/
def ports (c : Catalog) : Stage → List Port
  | start => c.ports
  | visiting ports _ => ports
  | serving _ _ _ ports _ => ports
  | binding .. => []
  | finished _ => []

/-- What the pass remembers. -/
def pass : Stage → Pass
  | start => Pass.start
  | visiting _ pass => pass
  | serving _ _ _ _ pass => pass
  | binding groups servers report => ⟨report, [], servers, groups⟩
  | finished _ => Pass.start

/-- The pass is still to bind this address of a port, if it finds a server for it. -/
def Awaits (c : Catalog) (st : Stage) (e : String × Desired) : Prop :=
  (∃ p ∈ st.ports c, p.role = .compute ∧ e ∈ portEntries c p) ∨
    ∃ group ∈ st.pass.groups, e ∈ group.entries

end Stage

/-- What a pass remembers is true: subnets are as the catalog has them, switches occur once, and
the servers it has found are there. -/
structure Pass.True (pass : Pass) (c : Catalog) (l : Ledger) : Prop where
  knows : pass.Knows c
  keyed : Table.Keyed SwitchGroup.switchId pass.groups
  servers : ∀ s ∈ pass.servers, s.service ∈ l.services

/-- At the start a pass remembers nothing that could be wrong. -/
theorem Pass.true_start (c : Catalog) (l : Ledger) : Pass.start.True c l where
  knows _ h := nomatch h
  keyed := Table.keyed_nil _
  servers _ h := nomatch h

namespace Stage

variable {w : World} {l : Ledger}

/-- What comes of a section: nothing is taken away, and what is bound was awaited. What the pass
remembers stays true, and it awaits nothing new. -/
def Advanced (c : Catalog) (st : Stage) (r : Except Error Stage) (acts : List Act) (l' : Ledger) :
    Prop :=
  (∀ a ∈ acts, a.Builds ∧ ∀ x e, a.aim? = some (x, e) → st.Awaits c e) ∧
    ∀ st', r = .ok st' → st'.pass.True c l' ∧ ∀ e, st'.Awaits c e → st.Awaits c e

/-- A section without acts advances if what it remembers is true. -/
theorem Advanced.nothing {c : Catalog} {st st' : Stage} {l' : Ledger}
    (remembers : st'.pass.True c l') (awaits : ∀ e, st'.Awaits c e → st.Awaits c e) :
    Advanced c st (.ok st') [] l' := by
  refine ⟨fun a ha => (nomatch ha), fun st' same => ?_⟩
  cases same
  exact ⟨remembers, awaits⟩

/-- A section that fails takes nothing away. -/
theorem Advanced.error {c : Catalog} {st : Stage} {e : Error} {l' : Ledger} :
    Advanced c st (.error e) [] l' :=
  ⟨fun _ ha => (nomatch ha), fun _ none => nomatch none⟩

/-- What a pass has collected is in its groups. -/
theorem entriesAt_of_mem {pass : Pass} (keyed : Table.Keyed SwitchGroup.switchId pass.groups)
    {group : SwitchGroup} (hg : group ∈ pass.groups) :
    pass.entriesAt group.switchId = group.entries := by
  rw [Pass.entriesAt, keyed.find? hg]

/-- An entry for a switch is an entry of one of the groups. -/
theorem mem_of_entriesAt {pass : Pass} {switchId : String} {e : String × Desired}
    (he : e ∈ pass.entriesAt switchId) : ∃ group ∈ pass.groups, e ∈ group.entries := by
  rw [Pass.entriesAt] at he
  cases found : Table.find? SwitchGroup.switchId switchId pass.groups with
  | none =>
      rw [found] at he
      cases he
  | some group =>
      rw [found] at he
      exact ⟨group, (Table.mem_of_find? found).1, he⟩

/-- An instance port: its addresses are awaited before as those of a port and afterwards as
collected. -/
theorem goes_visit_compute (shows : w.Shows l) {p : Port} (compute : p.role = .compute)
    {ports : List Port} {pass : Pass} (remembers : pass.True w.catalog l) :
    (visit p ports pass).Goes w l (Advanced w.catalog (visiting (p :: ports) pass)) := by
  rw [visit, compute]
  refine Goes.quiet (quiet_passComputePort shows remembers.knows p) ?_ fun e _ => .error
  intro pass' w1 _ shows1 gathers
  have keyed := gathers.keyed remembers.keyed
  refine Goes.pure shows1 (.nothing ⟨gathers.knows, keyed, ?_⟩ ?_)
  · show ∀ s ∈ pass'.servers, _
    rw [gathers.servers]
    exact remembers.servers
  · rintro e (⟨q, hq, wanted⟩ | ⟨group, hg, he⟩)
    · exact Or.inl ⟨q, List.mem_cons_of_mem _ hq, wanted⟩
    · rw [← entriesAt_of_mem keyed hg, gathers.entries] at he
      rcases List.mem_append.mp he with old | new
      · exact Or.inr (mem_of_entriesAt old)
      · split at new
        · exact Or.inl ⟨p, List.mem_cons_self, compute, new⟩
        · exact nomatch new

/-- A DHCP port without what is done under a lock: nothing but the knowledge of a subnet changes. -/
theorem goes_visit_dhcp (shows : w.Shows l) {p : Port} (dhcp : p.role = .dhcp)
    {ports : List Port} {pass : Pass} (remembers : pass.True w.catalog l) :
    (visit p ports pass).Goes w l (Advanced w.catalog (visiting (p :: ports) pass)) := by
  have later : ∀ e, (visiting ports pass).Awaits w.catalog e →
      (visiting (p :: ports) pass).Awaits w.catalog e := fun e awaits =>
    awaits.imp (fun ⟨q, hq, wanted⟩ => ⟨q, List.mem_cons_of_mem _ hq, wanted⟩) id
  rw [visit, dhcp]
  cases p.ipv4s with
  | nil => exact Goes.pure shows (.nothing remembers later)
  | cons f more =>
      refine Goes.quiet (quiet_subnet shows remembers.knows f.1) ?_ fun e _ => .error
      rintro ⟨subnet, pass1⟩ w1 - shows1 ⟨-, knows, same⟩
      obtain ⟨subnets, rfl⟩ : ∃ subnets, pass1 = { pass with subnets } := ⟨_, same⟩
      refine Goes.quiet (quiet_switchFor shows1 subnet p.networkId) ?_ fun e _ => .error
      rintro switch w2 - shows2 -
      have remembers' : ({ pass with subnets } : Pass).True w.catalog l :=
        ⟨knows, remembers.keyed, remembers.servers⟩
      cases subnet with
      | none => exact Goes.pure shows2 (.nothing remembers' later)
      | some s =>
          cases switch with
          | none => exact Goes.pure shows2 (.nothing remembers' later)
          | some switchId => exact Goes.pure shows2 (.nothing remembers' later)

/-- The network's server is found or made. -/
theorem goes_serving (shows : w.Shows l) (linked : l.Linked) (settings : Settings) (s : Subnet)
    (p : Port) (switchId : String) (ports : List Port) {pass : Pass}
    (remembers : pass.True w.catalog l) :
    ((Handler.attempt (ensureService settings s p)) >>= fun r =>
      (pure (visiting ports (pass.noted switchId r)) : Handler Stage)).Goes w l
        (Advanced w.catalog (serving s p switchId ports pass)) := by
  refine Goes.bind linked (Goes.attempt (T := fun r acts l' => ∃ r', r = .ok r' ∧
    Ensured w l settings s p r' acts l') (Goes.mono (goes_ensureService shows linked settings s p)
      fun r acts l' _ h => ⟨r, rfl, h.1⟩)) ?_ ?_
  case refine_2 =>
    rintro e acts l' - ⟨r', none, -⟩
    exact nomatch none
  rintro r acts l' w1 - shows1 - path ⟨r', same, ensured⟩
  cases same
  refine Goes.pure shows1 ?_
  rw [List.append_nil]
  have serves : ∀ a ∈ acts, ∃ s, a.served? = some s := by
    rcases ensured with ⟨rfl, -⟩ | ⟨config, time, -, -, rfl, -⟩
    · exact fun a ha => nomatch ha
    · exact fun a ha => List.mem_singleton.mp ha ▸ ⟨_, rfl⟩
  have builds := builds_of_served serves
  have kept : ∀ s ∈ pass.servers, s.service ∈ l'.services := fun s hs =>
    path.mem_services builds (remembers.servers s hs)
  refine ⟨fun a ha => ⟨builds a ha, fun x e aim => ?_⟩, fun st' same => ?_⟩
  · obtain ⟨made, served⟩ := serves a ha
    cases a <;> cases aim <;> exact nomatch served
  cases same
  -- the pass remembers one server more if there is one
  rcases r with e | ⟨x, fresh⟩
  · exact ⟨⟨remembers.knows, remembers.keyed, kept⟩, fun e => id⟩
  · have found : x ∈ l'.services := by
      rcases ensured with ⟨rfl, here⟩ | ⟨config, time, -, -, -, here⟩
      · cases path
        exact here.1
      · exact here.1
    refine ⟨⟨remembers.knows, remembers.keyed, fun s hs => ?_⟩, fun e => id⟩
    rcases Table.eq_or_mem_of_mem_put hs with rfl | old
    · exact found
    · exact kept s old

/-- The addresses behind a switch are bound. -/
theorem goes_binding (shows : w.Shows l) (linked : l.Linked) (settings : Settings)
    {group : SwitchGroup} {groups : List SwitchGroup} {servers : List SwitchServer}
    {report : ResyncReport} (remembers :
      (binding (group :: groups) servers report).pass.True w.catalog l) :
    (bindGroup settings servers report group >>= fun report =>
      (pure (binding groups servers report) : Handler Stage)).Goes w l
        (Advanced w.catalog (binding (group :: groups) servers report)) := by
  -- what is bound was in the group, so it was awaited
  have awaited : ∀ {acts : List Act}, Aims w (groupBinds servers group) acts → ∀ a ∈ acts,
      a.Builds ∧ ∀ x e, a.aim? = some (x, e) →
        (binding (group :: groups) servers report).Awaits w.catalog e := by
    intro acts aims a ha
    refine ⟨aims.builds a ha, fun x e aim => ?_⟩
    obtain ⟨b, hb, aim'⟩ := aims.1 a ha
    cases aim.symm.trans aim'
    obtain ⟨-, -, -, -, he⟩ := mem_groupBinds hb
    exact Or.inr ⟨group, List.mem_cons_self, he⟩
  refine Goes.bind linked (goes_bindGroup shows linked settings remembers.servers report group)
    ?_ ?_
  · rintro report' acts l' w1 - shows1 - path ⟨aims, -⟩
    refine Goes.pure shows1 ?_
    rw [List.append_nil]
    refine ⟨awaited aims, fun st' same => ?_⟩
    cases same
    refine ⟨⟨remembers.knows, (Table.keyed_cons.mp remembers.keyed).2, fun s hs => ?_⟩, ?_⟩
    · exact path.mem_services aims.builds (remembers.servers s hs)
    · rintro e (⟨q, none, -⟩ | ⟨g, hg, he⟩)
      · exact nomatch none
      · exact Or.inr ⟨g, List.mem_cons_of_mem _ hg, he⟩
  · rintro e acts l' - ⟨-, report', none, -⟩
    exact nomatch none

/-- Every section advances. -/
theorem goes_advance (shows : w.Shows l) (linked : l.Linked) (settings : Settings)
    (profileId : Option String) {st : Stage} (remembers : st.pass.True w.catalog l) :
    (st.advance settings profileId).Goes w l (Advanced w.catalog st) := by
  cases st with
  | start =>
      refine Goes.quiet (quiet_setting shows _) ?_ fun e _ => .error
      rintro _ w1 follows1 shows1 -
      refine Goes.quiet (quiet_query shows1 .ports) ?_ fun e _ => .error
      rintro found w2 - shows2 rfl
      refine Goes.pure shows2 (.nothing (Pass.true_start _ _) ?_)
      rw [show w1.catalog.answer .ports = w.catalog.ports by rw [follows1.catalog]; rfl]
      exact fun e => id
  | visiting ports pass =>
      cases ports with
      | nil =>
          refine Goes.pure shows (.nothing ⟨fun _ none => (nomatch none), ?_, remembers.servers⟩ ?_)
          -- the groups are only put into another order
          · exact remembers.keyed.perm (List.mergeSort_perm _ _).symm
          · rintro e (⟨q, none, -⟩ | ⟨g, hg, he⟩)
            · exact nomatch none
            · exact Or.inr ⟨g, List.mem_mergeSort.mp hg, he⟩
      | cons p ports =>
          cases role : p.role with
          | dhcp => exact goes_visit_dhcp shows role remembers
          | compute => exact goes_visit_compute shows role remembers
          | other =>
              rw [advance, visit, role]
              refine Goes.pure shows (.nothing remembers fun e awaits => ?_)
              exact awaits.imp (fun ⟨q, hq, wanted⟩ => ⟨q, List.mem_cons_of_mem _ hq, wanted⟩) id
  | serving s p switchId ports pass =>
      exact goes_serving shows linked _ s p switchId ports remembers
  | binding groups servers report =>
      cases groups with
      | nil =>
          refine Goes.quiet (quiet_report shows _) ?_ fun e _ => .error
          rintro _ w1 - shows1 -
          refine Goes.pure shows1 (.nothing (Pass.true_start _ _) ?_)
          rintro e (⟨q, none, -⟩ | ⟨g, none, -⟩) <;> exact nomatch none
      | cons group groups => exact goes_binding shows linked settings remembers
  | finished r => exact Goes.pure shows (.nothing remembers fun e => id)

end Stage

end Overlay.Dhcp
