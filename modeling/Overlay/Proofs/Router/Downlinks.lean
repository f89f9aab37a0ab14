import Overlay.Proofs.Router.Links
import Overlay.Router.Interface

/-!
# Downlink ports

A tenant router reaches a switch by a downlink port. Whichever router asks, a switch has at most one
such port, made by the first request that goes well; each later one only gives it other addresses.
Link ports stand in the same list, but linking and unlinking never touch a downlink port, since no
link port ever names one as its peer (`Tidy`).

Main statement: `one_downlink_last_write`.
-/

namespace Overlay.Router

open Overlay.Handler
open Overlay.Controller (HeldRouterPort State)
open Overlay.Controller.State (routerPortName)

variable {w w' : World} {routerId switchId switchPortId : String} {groups : List AddressGroup}

/-! ## One request -/

/-- The switch port is declared to belong to the switch. -/
def Declared (s : State) (switchPortId switchId : String) : Prop :=
  (Table.find? SwitchPort.id switchPortId s.switchPorts).map (·.switchId) = some switchId

/-- The downlink port that is made after `n` router ports. -/
def downlinkAfter (n : Nat) (routerId switchId : String) (groups : List AddressGroup) :
    HeldRouterPort :=
  ⟨⟨routerPortName (n + 1), routerId, .downlink, none, groups⟩, some switchId⟩

/-- How a request for the downlink port of a switch ends, and the router ports it leaves. -/
inductive Setting (w : World) (routerId switchId : String) (groups : List AddressGroup)
    (w' : World) : Except Error RouterPort → Prop where
  | failed {e : Error} (ports : w'.controller.routerPorts = w.controller.routerPorts)
      (made : w'.controller.made.routerPorts = w.controller.made.routerPorts) :
      Setting w routerId switchId groups w' (.error e)
  | readdressed {p : HeldRouterPort} (found : w.controller.downlinkTo switchId = some p)
      (ports : w'.controller.routerPorts = Table.modify HeldRouterPort.id p.id
        (·.withSubnets groups) w.controller.routerPorts)
      (made : w'.controller.made.routerPorts = w.controller.made.routerPorts) :
      Setting w routerId switchId groups w' (.ok (p.withSubnets groups).port)
  | created (none : w.controller.downlinkTo switchId = none)
      (ports : w'.controller.routerPorts = w.controller.routerPorts
        ++ [downlinkAfter w.controller.made.routerPorts routerId switchId groups])
      (made : w'.controller.made.routerPorts = w.controller.made.routerPorts + 1) :
      Setting w routerId switchId groups w'
        (.ok (downlinkAfter w.controller.made.routerPorts routerId switchId groups).port)

/-- A request for a new downlink port on a declared switch port. -/
theorem newRouterPort_downlinkRequest {s : State} (declared : Declared s switchPortId switchId)
    (routerId : String) (groups : List AddressGroup) :
    s.newRouterPort (downlinkRequest routerId switchPortId groups)
      = downlinkAfter s.made.routerPorts routerId switchId groups := by
  have leads : s.switchFor (downlinkRequest routerId switchPortId groups) = some switchId :=
    declared
  rw [State.newRouterPort, leads]
  rfl

/-- Where the switch has a port, the request gives this port the addresses. -/
theorem setting_of_found {p : HeldRouterPort} (named : w.controller.PortsNamed)
    (found : w.controller.downlinkTo switchId = some p) (routerId : String)
    (groups : List AddressGroup) :
    (call (.setRouterPortSubnets p.id groups)).Leaves w fun r w' =>
      Setting w routerId switchId groups w' r := by
  refine .call (fun e fate => .failed rfl rfl) fun fate => ?_
  let c : Controller.Call := .setRouterPortSubnets p.id groups
  have step : w.controller.perform c = _ := Controller.State.setRouterPortSubnets_of_mem
    (s := { w.controller with calls := w.controller.calls ++ [c] }) ⟨named.keyed, named.named⟩
    (List.mem_of_find?_eq_some found) groups
  rw [step]
  exact .readdressed found rfl rfl

/-- Where the switch has no port, the request makes one with the addresses. -/
theorem setting_of_none (declared : Declared w.controller switchPortId switchId)
    (none : w.controller.downlinkTo switchId = none) (routerId : String)
    (groups : List AddressGroup) :
    Leaves (do
      let port ← call (.createRouterPort (downlinkRequest routerId switchPortId groups))
      report (.downlinkCreated routerId switchId port.id)
      return port) w fun r w' => Setting w routerId switchId groups w' r := by
  refine .called (fun p w₁ create => ?_) fun e w₁ create => ?_
  · cases World.creating_call create with
    | created ports made =>
        rw [newRouterPort_downlinkRequest declared] at ports ⊢
        refine .bind (report_leaves (T := fun r w₂ => r = .ok () ∧
          w₂.controller = w₁.controller) fun _ => ⟨rfl, rfl⟩) ?_ ?_
        · rintro _ w₂ - ⟨-, kept⟩
          rw [← kept] at ports made
          exact .pure (.created none ports made)
        · rintro e w₂ - ⟨⟨⟩, -⟩
  · cases World.creating_call create with
    | failed ports made => exact .failed ports made

/-- The port of a switch is found as before where the ports are kept. -/
theorem PortsKept.downlinkTo (kept : PortsKept w w') (switchId : String) :
    w'.controller.downlinkTo switchId = w.controller.downlinkTo switchId :=
  congrArg (List.find? _) kept.ports

/-- What came before without touching the router ports does not matter. -/
theorem Setting.after {w₁ : World} {r : Except Error RouterPort} (kept : PortsKept w w₁)
    (h : Setting w₁ routerId switchId groups w' r) : Setting w routerId switchId groups w' r := by
  have same := kept.downlinkTo switchId
  cases h with
  | failed ports made => exact .failed (ports.trans kept.ports) (made.trans kept.made)
  | readdressed found ports made =>
      rw [kept.ports] at ports
      exact .readdressed (same ▸ found) ports (made.trans kept.made)
  | created none ports made =>
      rw [kept.ports, kept.made] at ports
      rw [kept.made] at made ⊢
      exact .created (same ▸ none) ports made

/-- A request for the downlink port of a switch, whether there is one or not. -/
theorem setting_setInterface (named : w.controller.PortsNamed)
    (declared : Declared w.controller switchPortId switchId) (routerId : String)
    (groups : List AddressGroup) :
    (setInterface routerId switchId switchPortId groups).Leaves w fun r w' =>
      Setting w routerId switchId groups w' r := by
  refine .called (fun found w₁ look => ?_) fun e w₁ look => ?_
  · obtain ⟨rfl, kept, switchPorts⟩ : found = (w.controller.downlinkTo switchId).map (·.port) ∧
        PortsKept w w₁ ∧ w₁.controller.switchPorts = w.controller.switchPorts := by
      cases World.asked_call rfl look with
      | answered => exact ⟨rfl, ⟨rfl, rfl⟩, rfl⟩
    rw [← kept.downlinkTo switchId]
    cases there : w₁.controller.downlinkTo switchId with
    | some p =>
        exact (setting_of_found (kept.portsNamed named) there routerId groups).mono
          fun _ _ _ => Setting.after kept
    | none =>
        have declared₁ : Declared w₁.controller switchPortId switchId := by
          rw [Declared, switchPorts]
          exact declared
        exact (setting_of_none declared₁ there routerId groups).mono
          fun _ _ _ => Setting.after kept
  · cases World.asked_call rfl look with
    | lost => exact .failed rfl rfl

/-! ## Link ports and downlink ports -/

/-- The downlink ports are those that lead to a switch, and link ports name no others than link
ports, of names that have been given out. -/
structure Tidy (s : State) : Prop where
  named : s.PortsNamed
  kinds : ∀ p ∈ s.routerPorts, p.port.kind = .downlink ↔ ∃ switchId, p.switchId = some switchId
  given : ∀ p ∈ s.routerPorts, ∀ id, p.port.linkedPortId = some id →
    ∃ n ≤ s.made.routerPorts, id = routerPortName n
  peers : ∀ p ∈ s.routerPorts, ∀ q ∈ s.routerPorts, p.port.linkedPortId = some q.id →
    q.port.kind = .link

/-- What stays of a port that gets other addresses. -/
structure Like (p p' : HeldRouterPort) : Prop where
  id : p'.id = p.id
  kind : p'.port.kind = p.port.kind
  switchId : p'.switchId = p.switchId
  linkedPortId : p'.port.linkedPortId = p.port.linkedPortId

theorem Like.refl (p : HeldRouterPort) : Like p p := ⟨rfl, rfl, rfl, rfl⟩

/-- A port with other addresses is like the port before. -/
theorem like_withSubnets (p : HeldRouterPort) (groups : List AddressGroup) :
    Like p (p.withSubnets groups) := ⟨rfl, rfl, rfl, rfl⟩

namespace Tidy

variable {s s' : State}

/-- Without router ports everything is tidy. -/
theorem of_nil (none : s.routerPorts = []) : Tidy s where
  named := .of_nil none
  kinds _ hp := nomatch none ▸ hp
  given _ hp := nomatch none ▸ hp
  peers _ hp := nomatch none ▸ hp

/-- Of the ports there were, some are left, perhaps with other addresses. -/
theorem of_like (h : Tidy s) (named : s'.PortsNamed)
    (made : s.made.routerPorts ≤ s'.made.routerPorts)
    (like : ∀ p' ∈ s'.routerPorts, ∃ p ∈ s.routerPorts, Like p p') : Tidy s' where
  named := named
  kinds p' hp' := by
    obtain ⟨p, hp, same⟩ := like p' hp'
    rw [same.kind, same.switchId]
    exact h.kinds p hp
  given p' hp' id names := by
    obtain ⟨p, hp, same⟩ := like p' hp'
    obtain ⟨n, early, name⟩ := h.given p hp id (same.linkedPortId ▸ names)
    exact ⟨n, Nat.le_trans early made, name⟩
  peers p' hp' q' hq' names := by
    obtain ⟨p, hp, same⟩ := like p' hp'
    obtain ⟨q, hq, same'⟩ := like q' hq'
    rw [same.linkedPortId, same'.id] at names
    rw [same'.kind]
    exact h.peers p hp q hq names

/-- There are new ports, of names that were to come, and a new port names as its peer only a new
link port. -/
theorem append (h : Tidy s) (named : s'.PortsNamed)
    (made : s.made.routerPorts ≤ s'.made.routerPorts) {new : List HeldRouterPort}
    (ports : s'.routerPorts = s.routerPorts ++ new)
    (fresh : ∀ p ∈ new, ∃ k, s.made.routerPorts < k ∧ p.id = routerPortName k)
    (kinds : ∀ p ∈ new, p.port.kind = .downlink ↔ ∃ switchId, p.switchId = some switchId)
    (peers : ∀ p ∈ new, ∀ id, p.port.linkedPortId = some id →
      ∃ q ∈ new, q.id = id ∧ q.port.kind = .link) : Tidy s' where
  named := named
  kinds p hp := by
    rcases List.mem_append.mp (ports ▸ hp) with old | hp
    · exact h.kinds p old
    · exact kinds p hp
  given p hp id names := by
    rcases List.mem_append.mp (ports ▸ hp) with old | hp
    · obtain ⟨n, early, name⟩ := h.given p old id names
      exact ⟨n, Nat.le_trans early made, name⟩
    · obtain ⟨q, hq, rfl, -⟩ := peers p hp id names
      have there : q ∈ s'.routerPorts := ports ▸ List.mem_append_right s.routerPorts hq
      exact named.named q.id (List.mem_map.mpr ⟨q, there, rfl⟩)
  peers p hp q hq names := by
    rcases List.mem_append.mp (ports ▸ hp) with old | hp
    · rcases List.mem_append.mp (ports ▸ hq) with old' | hq
      · exact h.peers p old q old' names
      · -- What an old port names has been given out, so it is no new port.
        obtain ⟨k, later, name⟩ := fresh q hq
        obtain ⟨n, early, name'⟩ := h.given p old q.id names
        have number := Controller.State.routerPortName_inj (name.symm.trans name')
        omega
    · obtain ⟨q', hq', same, link⟩ := peers p hp q.id names
      have there : q' ∈ s'.routerPorts := ports ▸ List.mem_append_right s.routerPorts hq'
      rw [← named.keyed.eq_of_key there hq same]
      exact link

end Tidy

/-- Ports stay tidy when a downlink port was asked for. -/
theorem tidy_setting {r : Except Error RouterPort} (h : Tidy w.controller)
    (named : w'.controller.PortsNamed) (step : Setting w routerId switchId groups w' r) :
    Tidy w'.controller := by
  cases step with
  | failed ports made =>
      exact h.of_like named (Nat.le_of_eq made.symm) fun p hp => ⟨p, ports ▸ hp, .refl p⟩
  | readdressed found ports made =>
      refine h.of_like named (Nat.le_of_eq made.symm) fun p' hp' => ?_
      rw [ports] at hp'
      rcases Table.mem_or_eq_of_mem_modify hp' with old | ⟨p, hp, rfl⟩
      · exact ⟨p', old, .refl p'⟩
      · exact ⟨p, hp, like_withSubnets p groups⟩
  | created none ports made =>
      refine h.append named (made ▸ Nat.le_succ _) ports (List.forall_mem_singleton.mpr ?_)
        (List.forall_mem_singleton.mpr ?_) (List.forall_mem_singleton.mpr nofun)
      · exact ⟨_, Nat.lt_succ_self _, rfl⟩
      · exact iff_of_true rfl ⟨switchId, rfl⟩

/-- Ports stay tidy when routers were linked. -/
theorem tidy_linking {tier1Id tier0Id : String} {r : Except Error LinkPair}
    (h : Tidy w.controller) (named : w'.controller.PortsNamed)
    (made : w.controller.made.routerPorts ≤ w'.controller.made.routerPorts)
    (step : Linking w tier1Id tier0Id w' r) : Tidy w'.controller := by
  cases step with
  | unchanged ports => exact h.of_like named made fun p hp => ⟨p, ports ▸ hp, .refl p⟩
  | orphaned lost ports =>
      refine h.append named made ports (List.forall_mem_singleton.mpr ?_)
        (List.forall_mem_singleton.mpr ?_) (List.forall_mem_singleton.mpr nofun)
      · exact ⟨_, Nat.lt_succ_self _, rfl⟩
      · exact iff_of_false nofun nofun
  | linked ports =>
      have pair {P : HeldRouterPort → Prop}
          (tier0 : P (heldTier0Port w.controller.made.routerPorts tier0Id))
          (tier1 : P (heldTier1Port w.controller.made.routerPorts tier1Id)) :=
        List.forall_mem_cons.mpr ⟨tier0, List.forall_mem_singleton.mpr tier1⟩
      refine h.append named made ports (pair ?_ ?_) (pair ?_ ?_) (pair ?_ ?_)
      · exact ⟨_, Nat.lt_succ_self _, rfl⟩
      · exact ⟨_, Nat.lt_succ_of_lt (Nat.lt_succ_self _), rfl⟩
      · exact iff_of_false nofun nofun
      · exact iff_of_false nofun nofun
      · exact fun id names =>
          ⟨_, List.mem_cons_of_mem _ List.mem_cons_self, Option.some.inj names, rfl⟩
      · exact fun id names => ⟨_, List.mem_cons_self, Option.some.inj names, rfl⟩

/-- Ports stay tidy when a router was unlinked. -/
theorem tidy_unlinking {tier1Id : String} {r : Except Error Unit} (h : Tidy w.controller)
    (named : w'.controller.PortsNamed)
    (made : w.controller.made.routerPorts ≤ w'.controller.made.routerPorts)
    (step : Unlinking w tier1Id w' r) : Tidy w'.controller := by
  have fewer : ∀ p ∈ w'.controller.routerPorts, p ∈ w.controller.routerPorts := by
    cases step with
    | unseen _ ports | unlinked _ ports | kept _ _ ports => exact fun p hp => ports ▸ hp
    | halved _ _ _ ports | dangling _ _ _ ports | single _ _ ports =>
        exact fun p hp => (Table.mem_remove.mp (ports ▸ hp)).1
    | parted _ _ _ _ _ ports =>
        exact fun p hp => (Table.mem_remove.mp (Table.mem_remove.mp (ports ▸ hp)).1).1
  exact h.of_like named made fun p hp => ⟨p, fewer p hp, .refl p⟩

/-! ## The ports of one switch -/

/-- Linking routers leaves the ports of a switch alone. -/
theorem downlinksTo_linking {tier1Id tier0Id : String} {r : Except Error LinkPair}
    (step : Linking w tier1Id tier0Id w' r) (switchId : String) :
    w'.controller.downlinksTo switchId = w.controller.downlinksTo switchId := by
  unfold State.downlinksTo
  cases step with
  | unchanged ports => rw [ports]
  | orphaned _ ports | linked ports =>
      rw [ports, List.filter_append]
      exact List.append_nil _

/-- Taking link ports away leaves the ports of a switch. -/
theorem Tidy.filter_remove {s : State} (h : Tidy s) {ports : List HeldRouterPort}
    (there : ∀ p ∈ ports, p ∈ s.routerPorts) {id : String}
    (link : ∀ p ∈ s.routerPorts, p.id = id → p.port.kind = .link) (switchId : String) :
    (Table.remove HeldRouterPort.id id ports).filter (·.switchId = some switchId)
      = ports.filter (·.switchId = some switchId) := by
  refine Table.remove_hidden fun p hp same => decide_eq_false fun leads => ?_
  have downlink := (h.kinds p (there p hp)).mpr ⟨switchId, leads⟩
  rw [link p (there p hp) same] at downlink
  exact nomatch downlink

/-- Unlinking routers leaves the ports of a switch alone. -/
theorem downlinksTo_unlinking {tier1Id : String} {r : Except Error Unit}
    (h : Tidy w.controller) (step : Unlinking w tier1Id w' r) (switchId : String) :
    w'.controller.downlinksTo switchId = w.controller.downlinksTo switchId := by
  have first_gone {p : HeldRouterPort} (first : w.controller.linkPortOf tier1Id = some p) :
      (Table.remove HeldRouterPort.id p.id w.controller.routerPorts).filter
        (·.switchId = some switchId) = w.controller.downlinksTo switchId := by
    obtain ⟨hp, -, link⟩ := Controller.State.mem_of_linkPortOf first
    refine h.filter_remove (fun _ hq => hq) (fun q hq same => ?_) switchId
    rw [h.named.keyed.eq_of_key hq hp same]
    exact link
  cases step with
  | unseen _ ports | unlinked _ ports | kept _ _ ports => exact congrArg (List.filter _) ports
  | halved first _ _ ports | dangling first _ _ ports | single first _ ports =>
      rw [← first_gone first, ← ports]
      rfl
  | parted first names _ _ _ ports =>
      -- The second port that goes is the one that the first names, so it is a link port.
      have hp := (Controller.State.mem_of_linkPortOf first).1
      rw [← first_gone first, ← h.filter_remove (fun q hq => (Table.mem_remove.mp hq).1)
        (fun x hx same => h.peers _ hp x hx (same ▸ names)) switchId, ← ports]
      rfl

/-- A request for one switch leaves the ports of the others, link ports among them. -/
theorem Setting.filter_eq {r : Except Error RouterPort}
    (step : Setting w routerId switchId groups w' r) (named : w.controller.PortsNamed)
    {P : HeldRouterPort → Bool} (elsewhere : ∀ p, p.switchId = some switchId → P p = false) :
    w'.controller.routerPorts.filter P = w.controller.routerPorts.filter P := by
  cases step with
  | failed ports made => rw [ports]
  | @readdressed p found ports made =>
      obtain ⟨hp, leads⟩ := Controller.State.mem_of_downlinkTo found
      rw [ports]
      refine Table.modify_hidden fun q hq same => ?_
      cases named.keyed.eq_of_key hq hp same
      exact ⟨elsewhere p leads, elsewhere (p.withSubnets groups) leads⟩
  | created none ports made =>
      have hidden :=
        elsewhere (downlinkAfter w.controller.made.routerPorts routerId switchId groups) rfl
      rw [ports, List.filter_append, List.filter_cons_of_neg (Bool.eq_false_iff.mp hidden)]
      exact List.append_nil _

/-- A port that is found and readdressed is and stays the only one of its switch. -/
theorem downlinksTo_readdressed {p : HeldRouterPort} (named : w.controller.PortsNamed)
    (one : (w.controller.downlinksTo switchId).length ≤ 1)
    (found : w.controller.downlinkTo switchId = some p)
    (ports : w'.controller.routerPorts = Table.modify HeldRouterPort.id p.id
      (·.withSubnets groups) w.controller.routerPorts) :
    w.controller.downlinksTo switchId = [p] ∧
      w'.controller.downlinksTo switchId = [p.withSubnets groups] := by
  obtain ⟨hp, leads⟩ := Controller.State.mem_of_downlinkTo found
  have only : w.controller.downlinksTo switchId = [p] := by
    rw [← Controller.State.head?_downlinksTo] at found
    obtain ⟨rest, ports⟩ := List.head?_eq_some_iff.mp found
    rw [ports] at one ⊢
    rw [List.eq_nil_of_length_eq_zero (Nat.le_zero.mp (Nat.le_of_succ_le_succ one))]
  have inside : ∀ q ∈ w.controller.routerPorts, q.id = p.id →
      decide (q.switchId = some switchId) = true ∧
        decide ((q.withSubnets groups).switchId = some switchId) = true := by
    intro q hq same
    cases named.keyed.eq_of_key hq hp same
    exact ⟨decide_eq_true leads, decide_eq_true leads⟩
  refine ⟨only, ?_⟩
  rw [State.downlinksTo, ports, Table.modify_filter inside]
  show Table.modify HeldRouterPort.id p.id _ (w.controller.downlinksTo switchId) = _
  rw [only, Table.modify, if_pos rfl]

/-- A port that is made for a switch without one is the only one then. -/
theorem downlinksTo_created {n : Nat} (none : w.controller.downlinkTo switchId = none)
    (ports : w'.controller.routerPorts
      = w.controller.routerPorts ++ [downlinkAfter n routerId switchId groups]) :
    w.controller.downlinksTo switchId = [] ∧
      w'.controller.downlinksTo switchId = [downlinkAfter n routerId switchId groups] := by
  have empty : w.controller.downlinksTo switchId = [] := by
    rwa [← Controller.State.head?_downlinksTo, List.head?_eq_none_iff] at none
  refine ⟨empty, ?_⟩
  rw [State.downlinksTo, ports, List.filter_append]
  show w.controller.downlinksTo switchId ++ _ = _
  rw [empty, List.nil_append]
  exact List.filter_cons_of_pos (decide_eq_true rfl)

namespace Setting

/-- A request that fails leaves the router ports as they are. -/
theorem ports_of_error {e : Error} (step : Setting w routerId switchId groups w' (.error e)) :
    w'.controller.routerPorts = w.controller.routerPorts := by
  cases step with
  | failed ports made => exact ports

/-- A request that goes well leaves the switch with the port that it returns and no other. -/
theorem downlinksTo_of_ok {p : RouterPort}
    (step : Setting w routerId switchId groups w' (.ok p)) (named : w.controller.PortsNamed)
    (one : (w.controller.downlinksTo switchId).length ≤ 1) :
    (w'.controller.downlinksTo switchId).map (·.port) = [p] ∧ p.subnets = groups := by
  cases step with
  | readdressed found ports made =>
      rw [(downlinksTo_readdressed named one found ports).2]
      exact ⟨rfl, rfl⟩
  | created none ports made =>
      rw [(downlinksTo_created none ports).2]
      exact ⟨rfl, rfl⟩

/-- A request that makes a port leaves the switch with one more than it had. -/
theorem length_downlinksTo {r : Except Error RouterPort}
    (step : Setting w routerId switchId groups w' r) (named : w.controller.PortsNamed)
    (one : (w.controller.downlinksTo switchId).length ≤ 1) :
    (w'.controller.downlinksTo switchId).length = (w.controller.downlinksTo switchId).length
      + if w.controller.made.routerPorts < w'.controller.made.routerPorts then 1 else 0 := by
  cases step with
  | failed ports made =>
      rw [State.downlinksTo, ports, if_neg (Nat.not_lt_of_le (Nat.le_of_eq made))]
      rfl
  | readdressed found ports made =>
      obtain ⟨before, after⟩ := downlinksTo_readdressed named one found ports
      rw [before, after, if_neg (Nat.not_lt_of_le (Nat.le_of_eq made))]
      rfl
  | created none ports made =>
      obtain ⟨before, after⟩ := downlinksTo_created none ports
      rw [before, after, if_pos (Nat.lt_of_lt_of_eq (Nat.lt_succ_self _) made.symm)]
      rfl

end Setting

/-! ## Runs -/

/-- What may happen to the router ports: a downlink port is asked for, routers are linked or
unlinked, or everything changes but the router ports. -/
inductive Errand where
  | setInterface (routerId switchId switchPortId : String) (groups : List AddressGroup)
  | order (o : Order)
  | change (other : World)

/-- What an errand leaves. -/
def Errand.after : Errand → World → World
  | .setInterface routerId switchId switchPortId groups, w =>
    ((Router.setInterface routerId switchId switchPortId groups).runIn w).2
  | .order o, w => o.after w
  | .change other, w =>
    { other with
      controller := { other.controller with
        routerPorts := w.controller.routerPorts
        made := { other.controller.made with routerPorts := w.controller.made.routerPorts } } }

/-- What errands leave, one after the other. -/
def runErrands (errands : List Errand) (w : World) : World :=
  errands.foldl (fun w e => e.after w) w

/-- A request for the downlink port of a switch. -/
structure Visit where
  groups : List AddressGroup
  answer : Except Error RouterPort
  /-- Whether it made a router port. -/
  made : Bool

/-- What an errand has to do with a switch. -/
def Errand.visit (switchId : String) (w : World) : Errand → Option Visit
  | .setInterface routerId switchId' switchPortId groups =>
    let after := (Router.setInterface routerId switchId' switchPortId groups).runIn w
    if switchId' = switchId then
      some ⟨groups, after.1,
        w.controller.made.routerPorts < after.2.controller.made.routerPorts⟩
    else none
  | .order _ | .change _ => none

/-- The requests for the downlink port of a switch, first to last. -/
def visits (switchId : String) : List Errand → World → List Visit
  | [], _ => []
  | e :: rest, w => (e.visit switchId w).toList ++ visits switchId rest (e.after w)

/-- If a downlink port is asked for, its switch port is declared on its switch. -/
def Errand.Proper (w : World) : Errand → Prop
  | .setInterface _ switchId switchPortId _ => Declared w.controller switchPortId switchId
  | .order _ | .change _ => True

/-- Each errand is proper when it is run. -/
def AllProper : List Errand → World → Prop
  | [], _ => True
  | e :: rest, w => e.Proper w ∧ AllProper rest (e.after w)

/-- The switch has the port that its requests have left it with. -/
structure Served (switchId : String) (vs : List Visit) (s : State) : Prop where
  made : vs.countP (·.made) = (s.downlinksTo switchId).length
  last : (s.downlinksTo switchId).map (·.port)
    = (vs.filterMap (·.answer.toOption)).getLast?.toList
  groups : ∀ v ∈ vs, ∀ p, v.answer = .ok p → p.subnets = v.groups

namespace Served

variable {s s' : State} {vs : List Visit} {v : Visit}

/-- Without router ports a switch is as no request has left it. -/
theorem of_nil (none : s.routerPorts = []) (switchId : String) : Served switchId [] s where
  made := by rw [State.downlinksTo, none]; rfl
  last := by rw [State.downlinksTo, none]; rfl
  groups _ hv := nomatch hv

/-- A switch has at most one port. -/
theorem length_le_one (h : Served switchId vs s) : (s.downlinksTo switchId).length ≤ 1 := by
  rw [← List.length_map (·.port), h.last]
  cases (vs.filterMap (·.answer.toOption)).getLast? with
  | none => exact Nat.zero_le 1
  | some p => exact Nat.le_refl 1

/-- A port of the switch is not touched. -/
theorem congr (h : Served switchId vs s) (same : s'.downlinksTo switchId = s.downlinksTo switchId) :
    Served switchId (vs ++ []) s' where
  made := by rw [List.append_nil, same]; exact h.made
  last := by rw [List.append_nil, same]; exact h.last
  groups := by rw [List.append_nil]; exact h.groups

/-- One more request leaves the switch with what it was to have. -/
theorem setting (h : Served switchId vs w.controller) (named : w.controller.PortsNamed)
    {r : Except Error RouterPort} (step : Setting w routerId switchId groups w' r) :
    Served switchId (vs ++ [⟨groups, r, w.controller.made.routerPorts
      < w'.controller.made.routerPorts⟩]) w'.controller := by
  constructor
  case made =>
    rw [List.countP_append, h.made, step.length_downlinksTo named h.length_le_one,
      List.countP_singleton]
    simp only [decide_eq_true_eq]
  case last =>
    rw [List.filterMap_append]
    cases r with
    | ok p =>
        rw [(step.downlinksTo_of_ok named h.length_le_one).1]
        exact (congrArg Option.toList List.getLast?_concat).symm
    | error e =>
        show _ = (vs.filterMap (fun v : Visit => v.answer.toOption) ++ []).getLast?.toList
        rw [List.append_nil, ← h.last, State.downlinksTo, step.ports_of_error]
        rfl
  case groups =>
    intro v hv p answer
    rcases List.mem_append.mp hv with old | new
    · exact h.groups v old p answer
    · cases List.mem_singleton.mp new
      have ok : r = .ok p := answer
      rw [ok] at step
      exact (step.downlinksTo_of_ok named h.length_le_one).2

/-- Every errand leaves the switch with the port that its requests have left it with. -/
theorem errand (h : Served switchId vs w.controller) (tidy : Tidy w.controller) {e : Errand}
    (proper : e.Proper w) :
    Served switchId (vs ++ (e.visit switchId w).toList) (e.after w).controller := by
  cases e with
  | setInterface routerId switchId' switchPortId groups =>
      have step := setting_setInterface tidy.named proper routerId groups
      by_cases same : switchId' = switchId
      · subst same
        rw [Errand.visit, if_pos rfl]
        exact h.setting tidy.named step
      · rw [Errand.visit, if_neg same]
        refine h.congr (step.filter_eq tidy.named fun p leads => decide_eq_false fun here => ?_)
        exact same (Option.some.inj (leads.symm.trans here))
  | order o =>
      cases o with
      | link tier1Id tier0Id =>
          exact h.congr (downlinksTo_linking (linking_link tidy.named tier1Id tier0Id) switchId)
      | unlink tier1Id tier0Id =>
          have step := unlinking_removeLink w tier1Id tier0Id
          exact h.congr (downlinksTo_unlinking tidy step switchId)
  | change other => exact h.congr rfl

end Served

/-- Ports stay tidy through an errand. -/
theorem Tidy.errand (h : Tidy w.controller) {e : Errand} (proper : e.Proper w) :
    Tidy (e.after w).controller := by
  cases e with
  | setInterface routerId switchId switchPortId groups =>
      exact tidy_setting h (World.portsNamed_run _ h.named)
        (setting_setInterface h.named proper routerId groups)
  | order o =>
      cases o with
      | link tier1Id tier0Id =>
          exact tidy_linking h (World.portsNamed_run _ h.named) (World.made_run _ w)
            (linking_link h.named tier1Id tier0Id)
      | unlink tier1Id tier0Id =>
          exact tidy_unlinking h (World.portsNamed_run _ h.named) (World.made_run _ w)
            (unlinking_removeLink w tier1Id tier0Id)
  | change other =>
      exact h.of_like ⟨h.named.keyed, h.named.named⟩ (Nat.le_refl _) fun p hp => ⟨p, hp, .refl p⟩

/-- Through all errands the ports stay tidy, and the switch has what its requests have left it with. -/
theorem tidy_and_served_runErrands {vs : List Visit} {errands : List Errand}
    (tidy : Tidy w.controller) (served : Served switchId vs w.controller)
    (proper : AllProper errands w) :
    Tidy (runErrands errands w).controller ∧
      Served switchId (vs ++ visits switchId errands w) (runErrands errands w).controller := by
  induction errands generalizing vs w with
  | nil => exact ⟨tidy, (List.append_nil vs).symm ▸ served⟩
  | cons e rest ih =>
      obtain ⟨here, later⟩ := proper
      rw [visits, ← List.append_assoc]
      exact ih (tidy.errand here) (served.errand tidy here) later

/-- A switch has at most one downlink port, which was made by one request and is the one that the
last request for the switch returned among those that went well, with the addresses of this request.
A request for a switch leaves the ports that do not lead to it, and all of them if it fails. -/
theorem one_downlink_last_write (start : w.controller.routerPorts = []) {errands : List Errand}
    (proper : AllProper errands w) (switchId : String) :
    let now := runErrands errands w
    let requests := visits switchId errands w
    (∀ p ∈ now.controller.routerPorts,
      p.port.kind = .downlink ↔ ∃ switchId, p.switchId = some switchId) ∧
    (now.controller.downlinksTo switchId).length ≤ 1 ∧
    requests.countP (·.made) ≤ 1 ∧
    (now.controller.downlinksTo switchId).map (·.port)
      = (requests.filterMap (·.answer.toOption)).getLast?.toList ∧
    (∀ r ∈ requests, ∀ p, r.answer = .ok p → p.subnets = r.groups) ∧
    ∀ routerId switchPortId groups, Declared now.controller switchPortId switchId →
      let after := (setInterface routerId switchId switchPortId groups).runIn now
      (∀ p, after.1 = .ok p →
        (after.2.controller.downlinksTo switchId).map (·.port) = [p] ∧ p.subnets = groups) ∧
      (∀ e, after.1 = .error e → after.2.controller.routerPorts = now.controller.routerPorts) ∧
      after.2.controller.routerPorts.filter (·.switchId ≠ some switchId)
        = now.controller.routerPorts.filter (·.switchId ≠ some switchId) := by
  obtain ⟨tidy, served⟩ := tidy_and_served_runErrands (.of_nil start) (.of_nil start switchId)
    proper
  refine ⟨tidy.kinds, served.length_le_one, served.made ▸ served.length_le_one, served.last,
    served.groups, fun routerId switchPortId groups here => ?_⟩
  -- one more request, after all errands
  have step := setting_setInterface tidy.named here routerId groups
  refine ⟨fun p ok => ?_, fun e failed => ?_, step.filter_eq tidy.named fun p leads => ?_⟩
  · unfold Leaves at step
    rw [ok] at step
    exact step.downlinksTo_of_ok tidy.named served.length_le_one
  · unfold Leaves at step
    rw [failed] at step
    exact step.ports_of_error
  · rw [leads]
    exact decide_eq_false (not_not_intro rfl)

namespace Sample

/-- A switch port is declared on its switch. -/
def switched : World :=
  { provided with controller := provided.controller.addSwitchPort ⟨"lp-a", "ls-a"⟩ }

/-- Two routers ask for the same switch, and one of them is linked and unlinked meanwhile. -/
def errands : List Errand :=
  [.setInterface "t1" "ls-a" "lp-a" [⟨[], 24⟩], .order (.link "t1" "t0-a"),
    .setInterface "t2" "ls-a" "lp-a" [⟨[], 25⟩], .order (.unlink "t1" "t0-a")]

end Sample

/-- The port that the first router got has the addresses that the second one asked for. -/
theorem shared_downlink_readdressed :
    ((runErrands Sample.errands Sample.switched).controller.downlinksTo "ls-a").map (·.port)
        = [⟨"lrp-1", "t1", .downlink, none, [⟨[], 25⟩]⟩] ∧
      (visits "ls-a" Sample.errands Sample.switched).countP (·.made) ≤ 1 := by
  have proper : AllProper Sample.errands Sample.switched := ⟨rfl, trivial, rfl, trivial, trivial⟩
  obtain ⟨-, -, once, last, -⟩ := one_downlink_last_write (w := Sample.switched) rfl proper "ls-a"
  exact ⟨last.trans rfl, once⟩

end Overlay.Router
