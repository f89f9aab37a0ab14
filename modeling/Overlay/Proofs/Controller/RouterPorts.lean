import Overlay.Proofs.Table
import Overlay.Proofs.Text.Numerals
import Overlay.Proofs.World

/-!
# Router ports at the controller

A router port is named by how many have been made before it. So whatever programs do, no two ports
have one name and the names to come are free (`PortsNamed`).

For each call that makes ports, looks for them, changes them or takes them away there is one lemma:
what it answers and what is left of the ports.
-/

namespace Overlay

namespace Controller

/-- A router port is known by its identifier. -/
def HeldRouterPort.id (e : HeldRouterPort) : String := e.port.id

/-- A router port with other subnets. -/
def HeldRouterPort.withSubnets (e : HeldRouterPort) (subnets : List AddressGroup) :
    HeldRouterPort :=
  { e with port := { e.port with subnets } }

namespace State

/-- The name of the router port with this number. -/
def routerPortName (n : Nat) : String := s!"lrp-{n}"

/-- No two router ports are given one name. -/
theorem routerPortName_inj {m n : Nat} (h : routerPortName m = routerPortName n) : m = n :=
  Text.append_toString_inj h

/-- No router port has a name that is still to be given out. -/
def NamesFree (s : State) : Prop :=
  ∀ e ∈ s.routerPorts, ∀ k, s.made.routerPorts < k → e.id ≠ routerPortName k

/-- The router ports have names of their own, all of them given out before. -/
structure PortsNamed (s : State) : Prop where
  keyed : Table.Keyed HeldRouterPort.id s.routerPorts
  named : ∀ id ∈ s.routerPorts.map HeldRouterPort.id, ∃ n ≤ s.made.routerPorts,
    id = routerPortName n

namespace PortsNamed

variable {s s' : State}

/-- Without router ports all names are as they should be. -/
theorem of_nil (none : s.routerPorts = []) : s.PortsNamed where
  keyed := none ▸ Table.keyed_nil HeldRouterPort.id
  named := by
    rw [none]
    exact fun _ h => nomatch h

/-- A name that is to come is free. -/
theorem fresh (h : s.PortsNamed) {k : Nat} (later : s.made.routerPorts < k) :
    ∀ e ∈ s.routerPorts, e.id ≠ routerPortName k := by
  intro e he same
  obtain ⟨n, early, name⟩ := h.named e.id (List.mem_map.mpr ⟨e, he, rfl⟩)
  have number := routerPortName_inj (name.symm.trans same)
  omega

/-- Where the ports have names of their own, the next name is free. -/
theorem namesFree (h : s.PortsNamed) : s.NamesFree := fun e he _ later => h.fresh later e he

/-- Fewer ports, each with a name that there was. -/
theorem of_sublist (h : s.PortsNamed)
    (fewer : (s'.routerPorts.map HeldRouterPort.id).Sublist
      (s.routerPorts.map HeldRouterPort.id))
    (made : s.made.routerPorts ≤ s'.made.routerPorts) : s'.PortsNamed where
  keyed := h.keyed.sublist fewer
  named id hid := by
    obtain ⟨n, early, name⟩ := h.named id (fewer.subset hid)
    exact ⟨n, Nat.le_trans early made, name⟩

/-- One more port, with the name that comes next. -/
theorem concat (h : s.PortsNamed)
    (ids : s'.routerPorts.map HeldRouterPort.id
      = s.routerPorts.map HeldRouterPort.id ++ [routerPortName (s.made.routerPorts + 1)])
    (made : s'.made.routerPorts = s.made.routerPorts + 1) : s'.PortsNamed where
  keyed := by
    rw [Table.Keyed, ids]
    refine (List.perm_append_singleton _ _).nodup_iff.mpr
      (List.nodup_cons.mpr ⟨fun old => ?_, h.keyed⟩)
    obtain ⟨e, he, same⟩ := List.mem_map.mp old
    exact h.fresh (Nat.lt_succ_self _) e he same
  named id hid := by
    rw [ids, List.mem_append, List.mem_singleton] at hid
    rw [made]
    rcases hid with old | new
    · obtain ⟨n, early, name⟩ := h.named id old
      exact ⟨n, Nat.le_succ_of_le early, name⟩
    · exact ⟨_, Nat.le_refl _, new⟩

end PortsNamed

/-! ## Calls -/

variable {s : State}

/-- The port of another router that a request for a link port names as its peer. -/
def peerOf (r : RouterPortRequest) : Option String :=
  match r.kind with
  | .link => r.logicalPortId
  | .downlink => none

/-- The switch that a request for a downlink port leads to. -/
def switchFor (s : State) (r : RouterPortRequest) : Option String :=
  match r.kind with
  | .link => none
  | .downlink => r.logicalPortId.bind fun portId =>
      (Table.find? SwitchPort.id portId s.switchPorts).map (·.switchId)

/-- The router port that is made for a request. -/
def newRouterPort (s : State) (r : RouterPortRequest) : HeldRouterPort :=
  ⟨⟨routerPortName (s.made.routerPorts + 1), r.routerId, r.kind, peerOf r,
    r.addressGroups.getD []⟩, s.switchFor r⟩

/-- The router ports that there are, with the peer of a new one linked back to it. -/
def linkedBack (s : State) (r : RouterPortRequest) : List HeldRouterPort :=
  match peerOf r with
  | some peer => Table.modify HeldRouterPort.id peer
      (fun e => { e with port := { e.port with
        linkedPortId := some (routerPortName (s.made.routerPorts + 1)) } }) s.routerPorts
  | none => s.routerPorts

/-- A router port is made unless its router is refused. -/
theorem createRouterPort_eq (s : State) (r : RouterPortRequest) :
    s.createRouterPort r =
      if r.routerId ∈ s.refusals.routers then
        (.error ⟨.request, s!"injected failure creating port on {r.routerId}"⟩, s)
      else
        (.ok (s.newRouterPort r).port,
          { s with
            routerPorts := s.linkedBack r ++ [s.newRouterPort r]
            made := { s.made with routerPorts := s.made.routerPorts + 1 } }) := rfl

/-- The first port that joins a router to a switch. -/
def downlinkTo (s : State) (switchId : String) : Option HeldRouterPort :=
  s.routerPorts.find? (·.switchId = some switchId)

/-- The downlink port that is found leads to the switch. -/
theorem mem_of_downlinkTo {switchId : String} {e : HeldRouterPort}
    (h : s.downlinkTo switchId = some e) : e ∈ s.routerPorts ∧ e.switchId = some switchId := by
  have found : Table.find? HeldRouterPort.switchId (some switchId) s.routerPorts = some e := h
  exact Table.mem_of_find? found

/-- The ports that join a router to a switch. -/
def downlinksTo (s : State) (switchId : String) : List HeldRouterPort :=
  s.routerPorts.filter (·.switchId = some switchId)

/-- The downlink port that is found is the first one of its switch. -/
theorem head?_downlinksTo (s : State) (switchId : String) :
    (s.downlinksTo switchId).head? = s.downlinkTo switchId :=
  List.head?_filter

/-- The first port that links a router to another one. -/
def linkPortOf (s : State) (routerId : String) : Option HeldRouterPort :=
  s.routerPorts.find? fun e => e.port.routerId = routerId && e.port.kind = .link

/-- The link port that is found is one of the router. -/
theorem mem_of_linkPortOf {routerId : String} {e : HeldRouterPort}
    (h : s.linkPortOf routerId = some e) :
    e ∈ s.routerPorts ∧ e.port.routerId = routerId ∧ e.port.kind = .link := by
  have fits := List.find?_some h
  rw [Bool.and_eq_true, decide_eq_true_iff, decide_eq_true_iff] at fits
  exact ⟨List.mem_of_find?_eq_some h, fits⟩

/-- No link port is found exactly if the router has none. -/
theorem linkPortOf_eq_none_iff {routerId : String} :
    s.linkPortOf routerId = none ↔
      ∀ e ∈ s.routerPorts, e.port.kind = .link → e.port.routerId ≠ routerId := by
  rw [linkPortOf, List.find?_eq_none]
  refine forall₂_congr fun e _ => ?_
  rw [Bool.and_eq_true, decide_eq_true_iff, decide_eq_true_iff, and_comm, not_and]

/-- A router port that is there is removed. -/
theorem deleteRouterPort_of_mem {e : HeldRouterPort} (he : e ∈ s.routerPorts) :
    s.deleteRouterPort e.id
      = (.ok (), { s with routerPorts := Table.remove HeldRouterPort.id e.id s.routerPorts }) := by
  have there : s.routerPorts.any (·.port.id = e.id) = true :=
    List.any_eq_true.mpr ⟨e, he, decide_eq_true rfl⟩
  rw [deleteRouterPort, if_pos there]
  rfl

/-- A router port that is not there cannot be removed. -/
theorem deleteRouterPort_of_absent {id : String} (absent : ∀ e ∈ s.routerPorts, e.id ≠ id) :
    s.deleteRouterPort id = (.error ⟨.notFound, s!"router port {id}"⟩, s) := by
  have missing : ¬ s.routerPorts.any (·.port.id = id) = true := by
    rw [List.any_eq_true]
    rintro ⟨e, he, same⟩
    exact absent e he (of_decide_eq_true same)
  rw [deleteRouterPort, if_neg missing]

/-- A router port that is there gets the addresses. -/
theorem setRouterPortSubnets_of_mem (h : s.PortsNamed) {e : HeldRouterPort}
    (he : e ∈ s.routerPorts) (groups : List AddressGroup) :
    s.setRouterPortSubnets e.id groups = (.ok (e.withSubnets groups).port,
      { s with
        routerPorts :=
          Table.modify HeldRouterPort.id e.id (·.withSubnets groups) s.routerPorts }) := by
  have found : Table.find? (·.port.id) e.id s.routerPorts = some e := h.keyed.find? he
  rw [setRouterPortSubnets, found]
  rfl

/-- A change of ports that leaves their names. -/
theorem map_id_modify {id : String} {f : HeldRouterPort → HeldRouterPort}
    (keeps : ∀ e, (f e).id = e.id) (ports : List HeldRouterPort) :
    (Table.modify (·.port.id) id f ports).map HeldRouterPort.id
      = ports.map HeldRouterPort.id :=
  Table.map_modify keeps ports

/-- The ports keep names of their own when one is made. -/
theorem portsNamed_createRouterPort (h : s.PortsNamed) (r : RouterPortRequest) :
    (s.createRouterPort r).2.PortsNamed := by
  rw [createRouterPort]
  split
  · exact h
  · refine h.concat ?_ rfl
    dsimp only
    rw [List.map_append]
    refine congrArg₂ (· ++ ·) ?_ rfl
    split
    · exact map_id_modify (fun e => by rfl) _
    · rfl

/-- The ports keep names of their own when one is removed. -/
theorem portsNamed_deleteRouterPort (h : s.PortsNamed) (id : String) :
    (s.deleteRouterPort id).2.PortsNamed := by
  rw [deleteRouterPort]
  split
  · exact h.of_sublist (List.filter_sublist.map _) (Nat.le_refl _)
  · exact h

/-- The ports keep names of their own when one gets other addresses. -/
theorem portsNamed_setRouterPortSubnets (h : s.PortsNamed) (id : String)
    (subnets : List AddressGroup) : (s.setRouterPortSubnets id subnets).2.PortsNamed := by
  rw [setRouterPortSubnets]
  split
  · exact h
  · refine h.of_sublist ((congrArg (List.Sublist · _) ?_).mpr (List.Sublist.refl _)) (Nat.le_refl _)
    exact map_id_modify (fun e => by rfl) _

/-- The calls about router ports are the only ones that touch them or their number. -/
theorem portsNamed_perform (h : s.PortsNamed) (c : Call) : (s.perform c).2.PortsNamed := by
  have recorded : { s with calls := s.calls ++ [c] }.PortsNamed := ⟨h.keyed, h.named⟩
  cases c with
  | createRouterPort r => exact portsNamed_createRouterPort recorded r
  | deleteRouterPort id => exact portsNamed_deleteRouterPort recorded id
  | setRouterPortSubnets id subnets => exact portsNamed_setRouterPortSubnets recorded id subnets
  | setServerIp id ip =>
      simp only [perform, effect, setServerIp]
      split <;> exact ⟨h.keyed, h.named⟩
  | deleteServer id =>
      simp only [perform, effect, deleteServer]
      split
      · exact recorded
      · split <;> exact ⟨h.keyed, h.named⟩
  | createBinding serverId r =>
      simp only [perform, effect, createBinding]
      split
      · exact recorded
      · split <;> exact ⟨h.keyed, h.named⟩
  | updateBinding serverId bindingId u =>
      simp only [perform, effect, updateBinding]
      split <;> exact ⟨h.keyed, h.named⟩
  | deleteBinding serverId bindingId =>
      simp only [perform, effect, deleteBinding]
      split <;> exact ⟨h.keyed, h.named⟩
  | _ => exact ⟨h.keyed, h.named⟩

/-- The number of router ports that have been made only grows. -/
theorem made_perform (s : State) (c : Call) :
    s.made.routerPorts ≤ (s.perform c).2.made.routerPorts := by
  cases c <;> try exact Nat.le_refl _
  case createRouterPort r =>
      rw [perform, effect, createRouterPort_eq]
      split
      · exact Nat.le_refl _
      · exact Nat.le_succ _
  case setRouterPortSubnets id subnets =>
      simp only [perform, effect, setRouterPortSubnets]
      split <;> exact Nat.le_refl _
  case deleteRouterPort id =>
      simp only [perform, effect, deleteRouterPort]
      split <;> exact Nat.le_refl _
  case setServerIp id ip =>
      simp only [perform, effect, setServerIp]
      split <;> exact Nat.le_refl _
  case deleteServer id =>
      simp only [perform, effect, deleteServer]
      split
      · exact Nat.le_refl _
      · split <;> exact Nat.le_refl _
  case createBinding serverId r =>
      simp only [perform, effect, createBinding]
      split
      · exact Nat.le_refl _
      · split <;> exact Nat.le_refl _
  case updateBinding serverId bindingId u =>
      simp only [perform, effect, updateBinding]
      split <;> exact Nat.le_refl _
  case deleteBinding serverId bindingId =>
      simp only [perform, effect, deleteBinding]
      split <;> exact Nat.le_refl _

end State

end Controller

namespace World

/-- What comes of a call for a router port, and the router ports that it leaves. -/
inductive Creating (w : World) (r : RouterPortRequest) (w' : World) :
    Except Controller.Error RouterPort → Prop where
  | failed {e : Controller.Error} (ports : w'.controller.routerPorts = w.controller.routerPorts)
      (made : w'.controller.made.routerPorts = w.controller.made.routerPorts) :
      Creating w r w' (.error e)
  | created (ports : w'.controller.routerPorts
        = w.controller.linkedBack r ++ [w.controller.newRouterPort r])
      (made : w'.controller.made.routerPorts = w.controller.made.routerPorts + 1) :
      Creating w r w' (.ok (w.controller.newRouterPort r).port)

/-- How a call that makes a router port ends. -/
theorem creating_call {w w' : World} {r : RouterPortRequest}
    {answer : Except Controller.Error RouterPort}
    (call : w.call (.createRouterPort r) = (answer, w')) : Creating w r w' answer := by
  cases fate : w.callFaults.next (Controller.Call.createRouterPort r).operation with
  | some e =>
      rw [call_lost fate] at call
      cases call
      exact .failed rfl rfl
  | none =>
      rw [call_arrived fate, Controller.State.perform, Controller.State.effect,
        Controller.State.createRouterPort_eq] at call
      split at call
      · cases call
        exact .failed rfl rfl
      · cases call
        exact .created rfl rfl

end World

/-- What every call keeps of the controller is kept by every program. -/
theorem World.controller_run {α : Type} {R : Controller.State → Controller.State → Prop}
    (refl : ∀ s, R s s) (trans : ∀ {s s' s''}, R s s' → R s' s'' → R s s'')
    (each : ∀ s c, R s (s.perform c).2) (p : Program α) (w : World) :
    R w.controller (p.run w).2.controller := by
  induction p generalizing w with
  | done a => exact refl w.controller
  | ask r k ih =>
      refine trans ?_ (ih _ _)
      cases r with
      | call c =>
          show R w.controller (w.call c).2.controller
          cases fate : w.callFaults.next c.operation with
          | none =>
              rw [call_arrived fate]
              exact each w.controller c
          | some e =>
              rw [call_lost fate]
              exact refl w.controller
      | query q =>
          show R w.controller (w.query q).2.controller
          rw [World.query]
          split <;> exact refl w.controller
      | report e =>
          show R w.controller (w.answer (.report e)).2.controller
          rw [World.answer]
          split <;> exact refl w.controller
      | _ => exact refl w.controller

/-- Whatever a program does, the router ports keep names of their own. -/
theorem World.portsNamed_run {α : Type} (p : Program α) {w : World}
    (h : w.controller.PortsNamed) : (p.run w).2.controller.PortsNamed :=
  World.controller_run (R := fun s s' => s.PortsNamed → s'.PortsNamed) (fun _ named => named)
    (fun first rest named => rest (first named))
    (fun _ c named => Controller.State.portsNamed_perform named c) p w h

/-- Whatever a program does, no router port is unmade. -/
theorem World.made_run {α : Type} (p : Program α) (w : World) :
    w.controller.made.routerPorts ≤ (p.run w).2.controller.made.routerPorts :=
  World.controller_run (R := fun s s' => s.made.routerPorts ≤ s'.made.routerPorts)
    (fun _ => Nat.le_refl _) Nat.le_trans Controller.State.made_perform p w

end Overlay
