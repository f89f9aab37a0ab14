import Overlay.Proofs.Controller.View
import Overlay.Proofs.Dhcp.Keeps

/-!
# Which servers an event attaches

A server is attached to the switch port of its owner by one call, which is made right after the
server was made and remembered, and never again: where a service is found, no call is made.
`World.Attends` says this of all that may happen between two moments: every service that is new has
a server whose name is new, and the call that attaches this server was made, whether it got through
or not; and no call was made that attaches an older server.

Main statement: `attends_event`.
-/

namespace Overlay

namespace World

/-- The switch port that a port is mapped to. -/
def switchPort? (w : World) (portId : String) : Option String :=
  w.store.ports.bind fun rows =>
    (Table.find? Store.PortMapping.portId portId rows).map (·.switchPortId)

/-- The name was given to a server between `w` and `w'`. -/
def Names (w w' : World) (serverId : String) : Prop :=
  ∃ k, w.controller.made.servers < k ∧ k ≤ w'.controller.made.servers ∧
    serverId = Controller.State.serverName k

/-- The services as the store keeps them. -/
def serviceRows (w : World) : List Store.ServiceRow := w.store.services.getD []

/-- Between `w` and `w'` the calls `made` were made, of which `arrived` got through. -/
structure Tells (w : World) (made arrived : List Controller.Call) (w' : World) : Prop where
  issued : w'.issued = w.issued ++ made
  calls : w'.controller.calls = w.controller.calls ++ arrived
  arrived_made : arrived ⊆ made
  ports : w'.store.ports = w.store.ports
  servers : w.controller.made.servers ≤ w'.controller.made.servers
  attached : ∀ switchPortId serverId kind, .setAttachment switchPortId serverId kind ∈ made →
    w.Names w' serverId
  services : ∀ r ∈ w'.serviceRows, r ∈ w.serviceRows ∨ w.Names w' r.serverId ∧
    ∀ switchPortId ∈ w.switchPort? r.portId, .setAttachment switchPortId r.serverId .dhcp ∈ made

/-- From `w` to `w'` every server that was made and remembered was to be attached, and no other
one. -/
def Attends (w w' : World) : Prop := ∃ made arrived, w.Tells made arrived w'

variable {w w' w'' : World}

/-- A name that was given by one moment was given by every later one. -/
theorem Names.later {serverId : String} (h : w.Names w' serverId)
    (made : w'.controller.made.servers ≤ w''.controller.made.servers) : w.Names w'' serverId := by
  obtain ⟨k, new, given, rfl⟩ := h
  exact ⟨k, new, Nat.le_trans given made, rfl⟩

/-- A name that was given since one moment was given since every earlier one. -/
theorem Names.earlier {serverId : String} (h : w'.Names w'' serverId)
    (made : w.controller.made.servers ≤ w'.controller.made.servers) : w.Names w'' serverId := by
  obtain ⟨k, new, given, rfl⟩ := h
  exact ⟨k, Nat.lt_of_le_of_lt made new, given, rfl⟩

namespace Attends

theorem refl (w : World) : w.Attends w :=
  ⟨[], [], (List.append_nil _).symm, (List.append_nil _).symm, List.Subset.refl _, rfl,
    Nat.le_refl _, fun _ _ _ none => (nomatch none), fun _ => Or.inl⟩

theorem trans (h : w.Attends w') (h' : w'.Attends w'') : w.Attends w'' := by
  obtain ⟨made, arrived, h⟩ := h
  obtain ⟨made', arrived', h'⟩ := h'
  have mapped : w'.switchPort? = w.switchPort? := by
    funext portId
    rw [switchPort?, switchPort?, h.ports]
  refine ⟨made ++ made', arrived ++ arrived', ?_, ?_, ?_, h'.ports.trans h.ports,
    Nat.le_trans h.servers h'.servers, fun switchPortId serverId kind call => ?_, fun r hr => ?_⟩
  · rw [h'.issued, h.issued, List.append_assoc]
  · rw [h'.calls, h.calls, List.append_assoc]
  · exact List.append_subset.mpr
      ⟨List.Subset.trans h.arrived_made (List.subset_append_left _ _),
        List.Subset.trans h'.arrived_made (List.subset_append_right _ _)⟩
  · rcases List.mem_append.mp call with first | second
    · exact (h.attached _ _ _ first).later h'.servers
    · exact (h'.attached _ _ _ second).earlier h.servers
  · rcases h'.services r hr with before | ⟨named, attached⟩
    · rcases h.services r before with old | ⟨named, attached⟩
      · exact Or.inl old
      · exact Or.inr ⟨named.later h'.servers, fun switchPortId here =>
          List.mem_append_left _ (attached switchPortId here)⟩
    · refine Or.inr ⟨named.earlier h.servers, fun switchPortId here => ?_⟩
      exact List.mem_append_right _ (attached switchPortId (mapped ▸ here))

instance : IsPreorder World Attends where
  refl := refl
  trans _ _ _ := trans

/-- Nothing is made or attached. -/
theorem of_still {made arrived : List Controller.Call} (issued : w'.issued = w.issued ++ made)
    (calls : w'.controller.calls = w.controller.calls ++ arrived) (sub : arrived ⊆ made)
    (ports : w'.store.ports = w.store.ports)
    (servers : w'.controller.made.servers = w.controller.made.servers)
    (unattached : ∀ switchPortId serverId kind,
      .setAttachment switchPortId serverId kind ∉ made)
    (services : w'.serviceRows ⊆ w.serviceRows) : w.Attends w' :=
  ⟨made, arrived, issued, calls, sub, ports, Nat.le_of_eq servers.symm,
    fun switchPortId serverId kind call => absurd call (unattached switchPortId serverId kind),
    fun _ hr => Or.inl (services hr)⟩

/-- Statements that make no service and map no port. -/
theorem execute {st : Store.Statement} (plain : Request.Plain (.execute st)) (w : World) :
    w.Attends (w.execute st).2 := by
  have still : (w.store.execute st).2.ports = w.store.ports →
      (w.store.execute st).2.services.getD [] ⊆ w.store.services.getD [] →
      w.Attends (w.execute st).2 := fun ports services =>
    of_still (List.append_nil _).symm (List.append_nil _).symm (List.Subset.refl _) ports rfl
      (fun _ _ _ => List.not_mem_nil) services
  cases st with
  | putService x => exact plain.elim
  | putPort m => exact plain.elim
  | deleteService networkId =>
      refine still rfl ?_
      cases here : w.store.services with
      | none => simp [Store.execute, Store.onTable, here]
      | some rows =>
          simp only [Store.execute, Store.onTable, here, Option.getD_some]
          exact List.filter_sublist.subset
  | _ => exact still rfl (List.Subset.refl _)

/-- A plain call leaves nothing to attach. -/
theorem call {c : Controller.Call} (plain : Request.Plain (.call c)) (w : World) :
    w.Attends (w.call c).2 := by
  have unattached : ∀ switchPortId serverId kind,
      .setAttachment switchPortId serverId kind ∉ [c] := by
    intro switchPortId serverId kind here
    cases List.mem_singleton.mp here
    exact plain
  cases fate : w.callFaults.next c.operation with
  | some e =>
      rw [call_lost fate]
      exact of_still rfl (List.append_nil _).symm (List.nil_subset _) rfl rfl unattached
        (List.Subset.refl _)
  | none =>
      obtain ⟨-, calls, servers⟩ := w.controller.perform_frame c
      have same := servers fun config other => by
        rw [other] at plain
        exact plain
      rw [call_arrived fate]
      exact of_still rfl calls (List.Subset.refl _) rfl same unattached (List.Subset.refl _)

/-- What touches neither store nor controller leaves nothing to attach. -/
theorem still (w : World) (queryFaults : Faults Catalog.Topic Catalog.Error) (tier0s : Tier0Cache)
    (trail : List Audit.Event) (clock : Clock) :
    w.Attends { w with queryFaults, tier0s, trail, clock } :=
  of_still (List.append_nil _).symm (List.append_nil _).symm (List.Subset.refl _) rfl rfl
    (fun _ _ _ => List.not_mem_nil) (List.Subset.refl _)

/-- A look-up leaves nothing to attach. -/
theorem query (q : Catalog.Query) (w : World) : w.Attends (w.query q).2 := by
  rw [World.query]
  split <;> exact still w _ w.tier0s w.trail w.clock

/-- A request that makes no server. -/
theorem answer {r : Request} (plain : r.Plain) (w : World) : w.Attends (w.answer r).2 := by
  have still := still w
  cases r with
  | call c => exact call plain w
  | execute st => exact execute plain w
  | query q => exact query q w
  | report e =>
      rw [World.answer]
      split
      · exact still w.queryFaults w.tier0s _ w.clock
      · exact refl w
  | remember t => exact still w.queryFaults _ w.trail w.clock
  | now => exact still w.queryFaults w.tier0s w.trail _
  | acquire key => exact refl w
  | release key => exact refl w
  | validated id => exact refl w

end Attends

/-! ## Making a server -/

/-- Since `w` a server was made for a port. It may be remembered, but it was not attached. -/
structure Pending (w : World) (config : DhcpServerConfig) (portId serverId : String) (w' : World) :
    Prop where
  issued : w'.issued = w.issued ++ [.createServer config]
  calls : w'.controller.calls = w.controller.calls ++ [.createServer config]
  ports : w'.store.ports = w.store.ports
  servers : w'.controller.made.servers = w.controller.made.servers + 1
  name : serverId = Controller.State.serverName (w.controller.made.servers + 1)
  services : ∀ r ∈ w'.serviceRows, r ∈ w.serviceRows ∨ r.serverId = serverId ∧ r.portId = portId

namespace Pending

variable {config : DhcpServerConfig} {portId serverId : String}

/-- A server that waits for its attachment was made meanwhile. -/
theorem names (h : w.Pending config portId serverId w') : w.Names w' serverId :=
  ⟨_, Nat.lt_succ_self _, Nat.le_of_eq h.servers.symm, h.name⟩

/-- Where nothing new is remembered for a port that is mapped, there is nothing to attach. -/
theorem attends (h : w.Pending config portId serverId w')
    (unmapped : ∀ r ∈ w'.serviceRows, r ∈ w.serviceRows ∨ w.switchPort? r.portId = none) :
    w.Attends w' := by
  refine ⟨_, _, h.issued, h.calls, List.Subset.refl _, h.ports, ?_, ?_, fun r hr => ?_⟩
  · exact h.servers ▸ Nat.le_succ _
  · exact fun _ _ _ call => nomatch List.mem_singleton.mp call
  · rcases h.services r hr with old | ⟨rfl, -⟩
    · exact Or.inl old
    · refine (unmapped r hr).imp_right fun none => ⟨h.names, fun switchPortId here => ?_⟩
      exact nomatch none.symm.trans here

/-- The server is made, unless the call is lost. -/
theorem made (w : World) (config : DhcpServerConfig) (portId : String) :
    (Handler.call (.createServer config)).Leaves w fun r w' =>
      match r with
      | .ok serverId => w.Pending config portId serverId w'
      | .error _ => w.Attends w' := by
  refine Handler.Leaves.call (fun e lost => ?_) fun _ => ⟨rfl, rfl, rfl, rfl, rfl, fun _ => Or.inl⟩
  refine .of_still rfl (List.append_nil _).symm (List.nil_subset _) rfl rfl
    (fun _ _ _ call => ?_) (List.Subset.refl _)
  cases List.mem_singleton.mp call

/-- The service is remembered, unless there is no table for it. -/
theorem remembered (h : w.Pending config portId serverId w') (networkId : String) (time : Instant) :
    (Handler.execute (.putService ⟨networkId, portId, serverId, time⟩)).Leaves w' fun r w'' =>
      match r with
      | .ok _ => w.Pending config portId serverId w''
      | .error _ => w.Attends w'' := by
  refine Handler.Leaves.execute ?_
  cases here : w'.store.services with
  | none =>
      simp only [Store.execute, Store.onTable, here]
      have pending : w.Pending config portId serverId
          { w' with store := { w'.store with services := none } } :=
        { h with services := fun r hr => (nomatch hr) }
      exact pending.attends fun r hr => (nomatch hr)
  | some rows =>
      simp only [Store.execute, Store.onTable, here]
      refine { h with services := fun r hr => ?_ }
      rcases Table.eq_or_mem_of_mem_put hr with rfl | old
      · exact Or.inr ⟨rfl, rfl⟩
      · refine h.services r ?_
        rw [serviceRows, here]
        exact old

/-- The switch port is looked up where it was all the time. -/
theorem looked_up (h : w.Pending config portId serverId w') :
    (Handler.execute (.getPort portId)).Leaves w' fun r w'' =>
      w.Pending config portId serverId w'' ∧ match r with
        | .ok found => found.map (·.switchPortId) = w.switchPort? portId
        | .error _ => w.switchPort? portId = none := by
  refine Handler.Leaves.execute ⟨{ h with }, ?_⟩
  rw [switchPort?, ← h.ports]
  cases here : w'.store.ports with
  | none => simp only [Store.execute, Store.readTable, here]; rfl
  | some rows => simp only [Store.execute, Store.readTable, here]; rfl

/-- A server for a port without a switch port is not to be attached. -/
theorem attends_of_unmapped (h : w.Pending config portId serverId w')
    (unmapped : w.switchPort? portId = none) : w.Attends w' :=
  h.attends fun r hr => (h.services r hr).imp_right fun ⟨_, mine⟩ => mine ▸ unmapped

/-- The server is to be attached to its port's switch port, whether the call gets through or not. -/
theorem attends_of_mapped (h : w.Pending config portId serverId w') {switchPortId : String}
    (mapped : w.switchPort? portId = some switchPortId) :
    w.Attends (w'.call (.setAttachment switchPortId serverId .dhcp)).2 := by
  -- the call is made in both cases; they differ in whether it has arrived
  have tells : ∀ arrived w'',
      w''.issued = w'.issued ++ [.setAttachment switchPortId serverId .dhcp] →
      w''.controller.calls = w'.controller.calls ++ arrived →
      arrived ⊆ [.setAttachment switchPortId serverId .dhcp] → w''.store = w'.store →
      w''.controller.made = w'.controller.made → w.Attends w'' := by
    intro arrived w'' issued calls sub store made
    have servers : w''.controller.made.servers = w.controller.made.servers + 1 :=
      (congrArg _ made).trans h.servers
    have names : w.Names w'' serverId := h.names.later (Nat.le_of_eq (congrArg _ made.symm))
    refine ⟨[.createServer config, .setAttachment switchPortId serverId .dhcp],
      .createServer config :: arrived, ?_, ?_, ?_, ?_, ?_, ?_, fun r hr => ?_⟩
    · rw [issued, h.issued, List.append_assoc]
      rfl
    · rw [calls, h.calls, List.append_assoc]
      rfl
    · exact List.cons_subset_cons _ sub
    · rw [store, h.ports]
    · exact servers ▸ Nat.le_succ _
    · intro _ _ _ call
      rcases List.mem_cons.mp call with other | call
      · exact nomatch other
      · cases List.mem_singleton.mp call
        exact names
    · have here : r ∈ w'.serviceRows := by
        rw [serviceRows, store] at hr
        exact hr
      rcases h.services r here with old | ⟨rfl, rfl⟩
      · exact Or.inl old
      · refine Or.inr ⟨names, fun _ found => ?_⟩
        cases mapped.symm.trans found
        exact List.mem_cons_of_mem _ (List.mem_singleton_self _)
  cases fate : w'.callFaults.next .setAttachment with
  | some e =>
      rw [call_lost (c := .setAttachment switchPortId serverId .dhcp) fate]
      exact tells [] _ rfl (List.append_nil _).symm (List.nil_subset _) rfl rfl
  | none =>
      rw [call_arrived (c := .setAttachment switchPortId serverId .dhcp) fate]
      exact tells _ _ rfl rfl (List.Subset.refl _) rfl rfl

end Pending

end World

namespace Dhcp

open Overlay.Handler

variable (settings : Settings) (p : Port)

/-- The server is attached as soon as it is remembered. -/
theorem attends_createService (n : Network) (s : Subnet) :
    (createService settings n s p).Keeps World.Attends := by
  intro w
  rw [createService]
  cases serverConfig n s p settings with
  | error e => exact Leaves.throw (.refl w)
  | ok config =>
      dsimp only
      rw [pure_bind]
      refine Leaves.bind (World.Pending.made w config p.id) ?_ fun _ _ _ => id
      rintro serverId w1 - pending
      refine Leaves.bind
        (P := fun r w' => (∃ time, r = .ok time) ∧ w.Pending config p.id serverId w')
        (Leaves.now ⟨⟨_, rfl⟩, { pending with }⟩) ?_ ?_
      rotate_left
      · rintro e w2 - ⟨none, -⟩
        cases none.choose_spec
      rintro time w2 - ⟨-, pending⟩
      refine Leaves.bind (pending.remembered n.id time) ?_ fun _ _ _ => id
      rintro _ w3 - pending
      refine Leaves.bind (P := fun r w' => r = .ok () ∧ w.Pending config p.id serverId w')
        (Leaves.report (fun _ => ⟨rfl, { pending with }⟩) fun _ => ⟨rfl, pending⟩) ?_ ?_
      rotate_left
      · rintro e w4 - ⟨none, -⟩
        cases none
      rintro _ w4 - ⟨-, pending⟩
      -- the row is there; the switch port of its port is looked up and attached
      refine Leaves.bind pending.looked_up ?_ ?_
      · rintro found w5 - ⟨pending, mapped⟩
        cases found with
        | none => exact Leaves.pure (pending.attends_of_unmapped mapped.symm)
        | some m =>
            refine Leaves.bind (P := fun _ w' => w.Attends w') ?_
              (fun _ _ _ attends => Leaves.pure attends) fun _ _ _ => id
            rw [Leaves, runIn_call]
            exact pending.attends_of_mapped mapped.symm
      · rintro e w5 - ⟨pending, unmapped⟩
        exact pending.attends_of_unmapped unmapped

/-- Upkeep leaves nothing to attach. -/
theorem attends_of_upkeep {α : Type} {h : Handler α} (upkeep : h.Within Request.OfUpkeep) :
    h.Keeps World.Attends :=
  .of_within upkeep fun _ h => World.Attends.answer h.2

/-- A look-up, as a handler, leaves nothing to attach. -/
theorem attends_query (q : Catalog.Query) : (Handler.query q).Keeps World.Attends := by
  refine .of_within (P := fun r => r = .query q) (.query rfl) ?_
  rintro _ rfl w
  exact World.Attends.query q w

/-- Making the server of a network that has none asks for the attachment of what it makes. -/
theorem attends_createServiceFor : (createServiceFor settings p).Keeps World.Attends := by
  refine .bind (attends_of_upkeep (.execute ⟨trivial, trivial⟩)) fun service => ?_
  cases service with
  | some x => exact .pure ()
  | none =>
      refine .bind (attends_of_upkeep (within_valid _)) fun address => ?_
      cases address with
      | none => exact .pure ()
      | some f =>
          refine .bind (attends_of_upkeep (.query ⟨trivial, trivial⟩)) fun subnet => ?_
          cases subnet with
          | none => exact .throw _
          | some s =>
              refine .ite (fun _ => ?_) fun _ => .pure ()
              refine .bind (attends_query (.network p.networkId)) fun network => ?_
              cases network with
              | none => exact .throw _
              | some n => exact .bind (attends_createService settings p n s) fun _ => .pure ()

/-- Finding the server of a network or making it asks for the attachment of what it makes. -/
theorem attends_ensureService (s : Subnet) :
    (ensureService settings s p).Keeps World.Attends := by
  refine .locked (.bind (attends_of_upkeep (.execute ⟨trivial, trivial⟩)) fun service => ?_)
  cases service with
  | some x => exact .pure _
  | none =>
      refine .bind (attends_query (.network p.networkId)) fun network => ?_
      cases network with
      | none => exact .throw _
      | some n => exact .bind (attends_createService settings p n s) fun _ => .pure _

/-- Whatever the event is and whatever fails, every server that is made and remembered is to be
attached at once, and no other one. -/
theorem attends_event (e : Event) : (e.handler settings).Keeps World.Attends :=
  Upheld.event
    { request := fun _ plain _ => World.Attends.answer plain
      create := attends_createServiceFor
      ensure := fun settings s p => attends_ensureService settings p s
      teardown := fun networkId owner =>
        attends_of_upkeep (within_teardown networkId owner).upkeep_of_removal }
    settings e

end Dhcp

end Overlay
