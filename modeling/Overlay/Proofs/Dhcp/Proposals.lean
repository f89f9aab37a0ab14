import Overlay.Proofs.Dhcp.Coherent

/-!
# Subnets that are proposed and withdrawn

A second subnet of a network is refused if it is to be served by DHCP, and a refusal changes
nothing. A subnet that is withdrawn takes the network's server with it, whichever subnet this server
was made for; so a proposal that was refused is without effect only where the network has no server
that its withdrawal could take.

Main statement: `withdrawal_inert_iff`.
-/

namespace Overlay.Dhcp

open Overlay.Handler
open Overlay.Controller (HeldServer HeldBinding)

/-- The event asks for a subnet to be served by DHCP. -/
inductive Event.Proposes (s : Subnet) : Event → Prop
  | created : Proposes s (.subnetCreated s)
  | switchedOn (off : Subnet) (idle : off.servesDhcp = false) (serves : s.servesDhcp = true) :
      Proposes s (.subnetUpdated off s)

/-- The event takes a subnet back from DHCP: the subnet goes, or DHCP is switched off for it. -/
inductive Event.Withdraws (s : Subnet) : Event → Prop
  | deleted : Withdraws s (.subnetDeleted s)
  | switchedOff (off : Subnet) (home : off.networkId = s.networkId)
      (idle : off.servesDhcp = false) : Withdraws s (.subnetUpdated s off)

/-! ## Proposals -/

section Proposals

variable (settings : Settings) (s : Subnet) (w : World)

/-- The check of a proposal only looks into the catalog. -/
theorem runIn_ensureOnlyDhcpSubnet : ∃ queryFaults,
    ((ensureOnlyDhcpSubnet settings s).runIn w).2 = { w with queryFaults } := by
  rw [ensureOnlyDhcpSubnet]
  split
  · exact ⟨w.queryFaults, rfl⟩
  refine ⟨w.queryFaults.count .subnetsOf, ?_⟩
  rw [runIn_bind, runIn_query, World.query]
  cases w.queryFaults.next (Catalog.Query.topic (.subnetsOf s.networkId)) with
  | some e => rfl
  | none =>
      dsimp only [Except.mapError]
      split <;> rfl

/-- A proposal changes no record, whatever the answer to it is. -/
theorem untouched_of_proposes {d : Delivery} (proposes : d.event.Proposes s) :
    d.world.Untouched d.after := by
  obtain ⟨settings, event, w⟩ := d
  obtain ⟨queryFaults, checked⟩ := runIn_ensureOnlyDhcpSubnet settings s w
  have same : w.Untouched ((ensureOnlyDhcpSubnet settings s).runIn w).2 := by
    rw [checked]
    exact ⟨rfl, rfl, rfl, rfl, rfl, rfl⟩
  cases proposes with
  | created =>
      show w.Untouched ((subnetCreated settings s).runIn w).2
      rw [subnetCreated]
      split
      · rw [runIn_locked]
        exact same
      · exact ⟨rfl, rfl, rfl, rfl, rfl, rfl⟩
  | switchedOn off idle serves =>
      show w.Untouched ((subnetUpdated settings off s).runIn w).2
      rw [subnetUpdated, runIn_locked, idle, serves]
      exact same

/-- Only a subnet that is to be served is refused. -/
theorem serves_of_refused {d : Delivery} (proposes : d.event.Proposes s) {e : Error}
    (refused : d.answer = .error e) : s.servesDhcp = true := by
  obtain ⟨settings, event, w⟩ := d
  cases proposes with
  | created =>
      have answered : ((subnetCreated settings s).runIn w).1 = .error e := refused
      rw [subnetCreated] at answered
      split at answered
      · next serves => exact serves
      · exact nomatch answered
  | switchedOn off idle serves => exact serves

end Proposals

/-! ## Withdrawals -/

section Withdrawals

variable {w : World} {l : Ledger}

/-- If nothing fails, `teardown` takes the network's server with all rows under it. -/
theorem ends_teardown (shows : w.Shows l) (linked : l.Linked) (calm : w.Calm)
    (networkId : String) :
    (teardown networkId none).Ends w fun r w' => r = .ok () ∧
      match Table.find? Store.Service.networkId networkId l.services with
      | none => w'.Shows l
      | some x => w'.Shows ((Act.retire x none).apply l) := by
  refine Ends.bind (quiet_getService shows networkId) ?_ fun e w1 _ h => nomatch h.2.2
  rintro service w1 follows1 ⟨shows1, -, answer⟩
  rw [Except.ok.inj answer]
  cases found : Table.find? Store.Service.networkId networkId l.services with
  | none => exact Ends.pure ⟨rfl, shows1⟩
  | some x =>
      obtain ⟨hx, rfl⟩ := Table.mem_of_find? found
      obtain ⟨v, hv, id⟩ := linked.server_of_service x hx
      refine Ends.bind (P := fun r w' => r = .ok (.ok ()) ∧ w'.Shows { l with
          servers := Table.remove HeldServer.id x.serverId l.servers
          held := Table.remove HeldBinding.serverId x.serverId l.held }) ?_ ?_ ?_
      · rw [← id]
        refine Ends.mono (ends_deleteServer shows1 linked.servers_keyed hv) ?_
        rintro (e | (e | a)) w2 - ⟨-, done⟩
        · exact done.elim
        · exact absurd (calm.follows follows1) done.1
        · exact ⟨rfl, done⟩
      · rintro _ w2 follows2 ⟨removed, shows2⟩
        rw [Except.ok.inj removed]
        refine Ends.mono (ends_forget linked x shows2) ?_
        rintro r w3 - ⟨done, -, shows3⟩
        exact ⟨done, shows3⟩
      · rintro e w2 - ⟨none, -⟩
        exact nomatch none

/-- The server of a service is gone from store and controller, with all that is under it. -/
structure TakenDown (w w' : World) (services : List Store.Service) (rows : List Store.Binding)
    (x : Store.Service) : Prop where
  store : w'.store.Holds (Table.remove Store.Service.networkId x.networkId services)
    (Table.remove Store.Binding.serverId x.serverId rows)
  servers : w'.controller.servers = Table.remove HeldServer.id x.serverId w.controller.servers
  bindings : w'.controller.bindings
    = Table.remove HeldBinding.serverId x.serverId w.controller.bindings

/-- What a withdrawal comes to, if nothing fails. -/
theorem withdrawn {services : List Store.Service} {rows : List Store.Binding} {d : Delivery}
    {s : Subnet} (coherent : Coherent d.world services rows) (serves : s.servesDhcp = true)
    (withdraws : d.event.Withdraws s) (calm : d.world.Calm) (timely : d.Timely) :
    d.answer.isOk = true ∧
      match Table.find? Store.Service.networkId s.networkId services with
      | none => d.world.Untouched d.after
      | some x => TakenDown d.world d.after services rows x := by
  have torn : (teardown s.networkId none).Ends d.world fun r w' => r = .ok () ∧
      match Table.find? Store.Service.networkId s.networkId services with
      | none => d.world.Untouched w'
      | some x => TakenDown d.world w' services rows x := by
    refine Ends.mono (ends_teardown coherent.shows coherent.linked calm s.networkId) ?_
    rintro r w' - ⟨done, left⟩
    refine ⟨done, ?_⟩
    rw [show (Coherent.ledgerOf d.world services rows).services = services from rfl] at left
    cases found : Table.find? Store.Service.networkId s.networkId services with
    | none =>
        rw [found] at left
        exact ⟨left.store.services_eq.trans coherent.store.services_eq.symm,
          left.store.bindings_eq.trans coherent.store.bindings_eq.symm,
          left.controller.servers_eq, left.controller.bindings_eq,
          left.controller.servers_made, left.controller.bindings_made⟩
    | some x =>
        rw [found] at left
        exact ⟨left.store, left.controller.servers_eq, left.controller.bindings_eq⟩
  obtain ⟨settings, event, w⟩ := d
  -- both events are `teardown` under the network's lock
  have same : ∀ h : Handler Unit, h.runIn w = (teardown s.networkId none).runIn w →
      (h.runIn w).2.clock.Legible → (h.runIn w).1.isOk = true ∧
        match Table.find? Store.Service.networkId s.networkId services with
        | none => w.Untouched (h.runIn w).2
        | some x => TakenDown w (h.runIn w).2 services rows x := by
    intro h run legible
    rw [run] at legible ⊢
    obtain ⟨done, left⟩ := torn legible
    exact ⟨by rw [done]; rfl, left⟩
  cases withdraws with
  | deleted =>
      refine same (subnetDeleted s) ?_ timely
      rw [subnetDeleted, if_pos serves, runIn_locked]
  | switchedOff off home idle =>
      refine same (subnetUpdated settings s off) ?_ timely
      rw [subnetUpdated, runIn_locked, serves, idle, home]

end Withdrawals

/-! ## Proposal and withdrawal -/

section Both

variable {services : List Store.Service} {rows : List Store.Binding}

/-- A proposal that is refused changes no record, and with its withdrawal it changes none if and only
if the network has no server. If the network has one, the withdrawal takes it down. -/
theorem withdrawal_inert_iff {proposal withdrawal : Delivery} {s : Subnet}
    (coherent : Coherent proposal.world services rows) (proposes : proposal.event.Proposes s)
    (refused : ∃ cause, proposal.answer = .error (.invalidInput cause))
    (between : proposal.after.Untouched withdrawal.world)
    (withdraws : withdrawal.event.Withdraws s) (calm : withdrawal.world.Calm)
    (timely : withdrawal.Timely) :
    proposal.world.Untouched proposal.after ∧ withdrawal.answer.isOk = true ∧
      (proposal.world.Untouched withdrawal.after ↔ ∀ x ∈ services, x.networkId ≠ s.networkId) ∧
      ∀ x ∈ services, x.networkId = s.networkId →
        TakenDown proposal.world withdrawal.after services rows x := by
  obtain ⟨cause, refused⟩ := refused
  have inert := untouched_of_proposes s proposes
  have before := inert.trans between
  obtain ⟨ok, left⟩ := withdrawn (coherent.untouched before)
    (serves_of_refused s proposes refused) withdraws calm timely
  refine ⟨inert, ok, ?_⟩
  -- what the withdrawal takes down is the service of the network, if there is one
  cases found : Table.find? Store.Service.networkId s.networkId services with
  | none =>
      rw [found] at left
      have unserved := Table.find?_eq_none_iff.mp found
      refine ⟨iff_of_true (before.trans left) unserved, fun x hx home => ?_⟩
      exact absurd home (unserved x hx)
  | some x =>
      rw [found] at left
      obtain ⟨hx, home⟩ := Table.mem_of_find? found
      have down : TakenDown proposal.world withdrawal.after services rows x :=
        ⟨left.store, left.servers.trans (by rw [before.servers]),
          left.bindings.trans (by rw [before.held])⟩
      constructor
      · refine iff_of_false (fun same => ?_) fun unserved => unserved x hx home
        obtain ⟨v, hv, id⟩ := coherent.served x hx
        rw [← same.servers, down.servers] at hv
        exact (Table.mem_remove.mp hv).2 id
      · intro y hy there
        have : y = x := Table.Keyed.eq_of_key coherent.services_once hy hx (there.trans home.symm)
        exact this ▸ down

end Both

/-! ## A second subnet of the first network -/

namespace Sample

def second : Subnet :=
  ⟨"second", "net", .v4 (block ⟨10, 0, 1, 0⟩), true, none, [], []⟩

/-- A second subnet comes to the network, to be served as the first one is. -/
def proposed (w : World) : Delivery :=
  ⟨settings, .subnetCreated second, { w with catalog := catalog.addSubnet second }⟩

/-- The second subnet goes. -/
def withdrawal (w : World) : Delivery :=
  ⟨settings, .subnetDeleted second, { (proposed w).after with catalog }⟩

theorem refused {w : World} (calm : w.Calm) : (proposed w).answer
    = .error (.invalidInput (.secondDhcpSubnet "second" "net" "subnet")) := by
  show ((subnetCreated settings second).runIn { w with catalog := catalog.addSubnet second }).1 = _
  rw [subnetCreated, if_pos (by decide), runIn_locked, ensureOnlyDhcpSubnet, if_neg (by decide),
    runIn_bind, runIn_query, World.query, Faults.next, calm.queries]
  rfl

theorem calm_withdrawal {w : World} (calm : w.Calm) : (withdrawal w).world.Calm := by
  have proposing : (proposed w).world.Calm := { calm with }
  have after : (proposed w).after.Calm := proposing.follows (follows_runIn _ _)
  exact { after with }

end Sample

/-- A network without a server keeps its records. -/
theorem unserved_network_keeps_records :
    (Sample.proposed Sample.world).answer
      = .error (.invalidInput (.secondDhcpSubnet "second" "net" "subnet")) ∧
    (Sample.proposed Sample.world).world.Untouched (Sample.withdrawal Sample.world).after := by
  have coherent : Coherent (Sample.proposed Sample.world).world [] [] :=
    Sample.coherent_start ⟨rfl, rfl, rfl, rfl, rfl, rfl⟩
  have timely : (Sample.withdrawal Sample.world).Timely := by
    show Clock.Legible _
    decide +kernel
  have between : (Sample.proposed Sample.world).after.Untouched
      (Sample.withdrawal Sample.world).world := ⟨rfl, rfl, rfl, rfl, rfl, rfl⟩
  obtain ⟨-, -, inert, -⟩ := withdrawal_inert_iff (s := Sample.second) coherent .created
    ⟨_, Sample.refused Sample.calm⟩ between .deleted (Sample.calm_withdrawal Sample.calm) timely
  exact ⟨Sample.refused Sample.calm, inert.mpr fun x hx => nomatch hx⟩

/-- The server of a network and the binding under it go with a subnet that was refused, though the
subnet that they serve stays, nothing fails, and the withdrawal is answered without an error. -/
theorem refused_subnet_takes_server :
    (∃ services rows, Coherent (Sample.proposed Sample.bound.after).world services rows) ∧
    (Sample.proposed Sample.bound.after).world.catalog.subnets.map
      (fun s => (s.id, s.networkId, s.servesDhcp))
        = [("subnet", "net", true), ("second", "net", true)] ∧
    (Sample.proposed Sample.bound.after).settings.nativeDhcp = true ∧
    (Sample.proposed Sample.bound.after).answer
      = .error (.invalidInput (.secondDhcpSubnet "second" "net" "subnet")) ∧
    (Sample.withdrawal Sample.bound.after).world.Calm ∧
    (Sample.withdrawal Sample.bound.after).answer.isOk = true ∧
    (Sample.proposed Sample.bound.after).world.store.services.map (·.map (·.networkId))
      = some ["net"] ∧
    (Sample.withdrawal Sample.bound.after).after.store.services = some [] ∧
    (Sample.proposed Sample.bound.after).world.store.bindings.map List.length = some 1 ∧
    (Sample.withdrawal Sample.bound.after).after.store.bindings = some [] ∧
    (Sample.proposed Sample.bound.after).world.controller.servers.map (·.id) = ["dhcp-1"] ∧
    (Sample.withdrawal Sample.bound.after).after.controller.servers = [] ∧
    (Sample.withdrawal Sample.bound.after).after.controller.bindings = [] := by
  obtain ⟨services, rows, coherent⟩ := Coherent.of_homed_run Sample.homed_run
  have calm : Sample.bound.after.Calm :=
    (Sample.calm.follows Sample.follows_served).follows (follows_runIn _ _)
  exact ⟨⟨services, rows, { coherent with }⟩, by decide +kernel, by decide +kernel,
    Sample.refused calm, Sample.calm_withdrawal calm, by decide +kernel, by decide +kernel,
    by decide +kernel, by decide +kernel, by decide +kernel, by decide +kernel,
    by decide +kernel, by decide +kernel⟩

end Overlay.Dhcp
