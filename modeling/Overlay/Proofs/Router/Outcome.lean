import Overlay.Proofs.Controller.RouterPorts
import Overlay.Proofs.Keeps
import Overlay.Router.Link

/-!
# What linking and unlinking do

Whatever fails, an attempt to link two routers ends in one of a few ways, and so does an attempt to
unlink one. `Linking` and `Unlinking` list them, each with what is left of the controller's router
ports and with the call that was lost on the way.

Main statements: `linking_addLink` and `unlinking_removeLink`, with `linking_link` for the link of a
router that is validated first.
-/

namespace Overlay.Router

open Overlay.Handler
open Overlay.Controller (HeldRouterPort)
open Overlay.Controller.State (routerPortName)

variable {w : World}

/-- The tier-0 port of a link that is made after `n` router ports. -/
def tier0PortAfter (n : Nat) (tier0Id : String) (peer : Option String) : RouterPort :=
  ⟨routerPortName (n + 1), tier0Id, .link, peer, []⟩

/-- The tier-1 port of a link that is made after `n` router ports. -/
def tier1PortAfter (n : Nat) (tier1Id : String) : RouterPort :=
  ⟨routerPortName (n + 2), tier1Id, .link, some (routerPortName (n + 1)), []⟩

/-- The tier-0 port of a link as it is held once both ports are made: the two name each other. -/
def heldTier0Port (n : Nat) (tier0Id : String) : HeldRouterPort :=
  ⟨tier0PortAfter n tier0Id (some (routerPortName (n + 2))), none⟩

/-- The tier-1 port of a link as it is held. -/
def heldTier1Port (n : Nat) (tier1Id : String) : HeldRouterPort := ⟨tier1PortAfter n tier1Id, none⟩

/-- How an attempt to link two routers ends, and the router ports it leaves. -/
inductive Linking (w : World) (tier1Id tier0Id : String) (w' : World) :
    Except Error LinkPair → Prop where
  /-- No port is made, or the tier-0 port is taken away again. -/
  | unchanged {e : Error} (ports : w'.controller.routerPorts = w.controller.routerPorts) :
      Linking w tier1Id tier0Id w' (.error e)
  /-- Taking the tier-0 port away is lost. -/
  | orphaned {e : Error} {e' : Controller.Error} (lost : w.Lost w' .deleteRouterPort e')
      (ports : w'.controller.routerPorts = w.controller.routerPorts
        ++ [⟨tier0PortAfter w.controller.made.routerPorts tier0Id none, none⟩]) :
      Linking w tier1Id tier0Id w' (.error e)
  | linked (ports : w'.controller.routerPorts = w.controller.routerPorts
        ++ [heldTier0Port w.controller.made.routerPorts tier0Id,
          heldTier1Port w.controller.made.routerPorts tier1Id]) :
      Linking w tier1Id tier0Id w'
        (.ok ⟨tier0PortAfter w.controller.made.routerPorts tier0Id none,
          tier1PortAfter w.controller.made.routerPorts tier1Id⟩)

/-- How an attempt to unlink a router ends, and the router ports it leaves. -/
inductive Unlinking (w : World) (tier1Id : String) (w' : World) : Except Error Unit → Prop where
  /-- The look-up is lost. -/
  | unseen {e : Controller.Error} (lost : w.Lost w' .getLinkPort e)
      (ports : w'.controller.routerPorts = w.controller.routerPorts) :
      Unlinking w tier1Id w' (.error (.controller e))
  | unlinked (none : w.controller.linkPortOf tier1Id = none)
      (ports : w'.controller.routerPorts = w.controller.routerPorts) :
      Unlinking w tier1Id w' (.ok ())
  /-- Taking away the router's port is lost. -/
  | kept {p : HeldRouterPort} {e : Controller.Error}
      (first : w.controller.linkPortOf tier1Id = some p) (lost : w.Lost w' .deleteRouterPort e)
      (ports : w'.controller.routerPorts = w.controller.routerPorts) :
      Unlinking w tier1Id w' (.error (.controller e))
  /-- Taking away its peer is lost. -/
  | halved {p : HeldRouterPort} {peer : String} {e : Controller.Error}
      (first : w.controller.linkPortOf tier1Id = some p)
      (names : p.port.linkedPortId = some peer) (lost : w.Lost w' .deleteRouterPort e)
      (ports : w'.controller.routerPorts
        = Table.remove HeldRouterPort.id p.id w.controller.routerPorts) :
      Unlinking w tier1Id w' (.error (.controller e))
  /-- Its peer is gone already, which is an error. -/
  | dangling {p : HeldRouterPort} {peer : String}
      (first : w.controller.linkPortOf tier1Id = some p)
      (names : p.port.linkedPortId = some peer)
      (gone : ∀ q ∈ w.controller.routerPorts, q.id ≠ p.id → q.id ≠ peer)
      (ports : w'.controller.routerPorts
        = Table.remove HeldRouterPort.id p.id w.controller.routerPorts) :
      Unlinking w tier1Id w' (.error (.controller ⟨.notFound, s!"router port {peer}"⟩))
  /-- It names no peer. -/
  | single {p : HeldRouterPort} (first : w.controller.linkPortOf tier1Id = some p)
      (names : p.port.linkedPortId = Option.none)
      (ports : w'.controller.routerPorts
        = Table.remove HeldRouterPort.id p.id w.controller.routerPorts) :
      Unlinking w tier1Id w' (.ok ())
  | parted {p q : HeldRouterPort} (first : w.controller.linkPortOf tier1Id = some p)
      (names : p.port.linkedPortId = some q.id) (there : q ∈ w.controller.routerPorts)
      (other : q.id ≠ p.id) (arrived : ∀ e, ¬ w.Lost w' .deleteRouterPort e)
      (ports : w'.controller.routerPorts = Table.remove HeldRouterPort.id q.id
        (Table.remove HeldRouterPort.id p.id w.controller.routerPorts)) :
      Unlinking w tier1Id w' (.ok ())

/-- Reporting ends a handler without touching the controller. -/
theorem report_leaves {e : Audit.Event} {T : Except Error Unit → World → Prop}
    (kept : ∀ trail, T (.ok ()) { w with trail }) : (report e).Leaves w T :=
  .report (fun _ => kept _) fun _ => kept w.trail

/-- A call that arrives is no removal of a router port that is lost. -/
theorem not_lost_of_arrived {c : Controller.Call} (h : w.callFaults.next c.operation = none)
    (e : Controller.Error) :
    ¬ w.Lost { w.noted c with controller := (w.controller.perform c).2 } .deleteRouterPort e := by
  have lost : w.Lost (w.call c).2 .deleteRouterPort e ↔ _ := World.lost_call_iff
  rw [World.call_arrived h] at lost
  rw [lost]
  rintro ⟨same, fate⟩
  rw [same, h] at fate
  exact nomatch fate

/-! ## Linking -/

/-- The request for the tier-1 port of a link, placed on these members. -/
def placedRequest (tier1Id tier0PortId : String) (placed : List UInt32) : RouterPortRequest :=
  { tier1PortRequest tier1Id tier0PortId placed with edgeMembers := some placed }

/-- Links two routers as `addLink` does, but on members that are chosen in any way: `choose k` picks
`k` of the members that are given. -/
def addLinkBy (choose : Nat → List UInt32 → List UInt32) (tier1Id tier0Id : String)
    (members : List UInt32) : Handler LinkPair := do
  if members.length < minEdgeMembers then
    throw (.invalidInput (.tooFewMembers members.length tier0Id minEdgeMembers))
  let tier0Port ← call (.createRouterPort (tier0PortRequest tier0Id))
  match ← tryCall (.createRouterPort
      (placedRequest tier1Id tier0Port.id (choose minEdgeMembers members))) with
  | .ok tier1Port =>
    report (.linkPortsCreated tier1Id tier0Id tier1Port.id)
    return ⟨tier0Port, tier1Port⟩
  | .error e =>
    let _ ← tryCall (.deleteRouterPort tier0Port.id)
    throw (.controller e)

theorem addLink_eq_addLinkBy (tier1Id tier0Id : String) (members : List UInt32) :
    addLink tier1Id tier0Id members
      = addLinkBy (fun k members => members.take k) tier1Id tier0Id members := by
  unfold addLink addLinkBy
  split
  · rfl
  · refine congrArg (call _ >>= ·) (funext fun tier0Port => ?_)
    refine congrArg (tryCall (.createRouterPort
      (tier1PortRequest tier1Id tier0Port.id members)) >>= ·) (funext fun answer => ?_)
    cases answer <;> rfl

/-- The answer to the call for the tier-0 port of a link, and what the call leaves. -/
def opened (w : World) (tier0Id : String) : Except Controller.Error RouterPort × World :=
  w.call (.createRouterPort (tier0PortRequest tier0Id))

/-- The answer to the call for the tier-1 port, which comes next, and what it leaves. -/
def closed (w : World) (tier1Id tier0Id tier0PortId : String) (placed : List UInt32) :
    Except Controller.Error RouterPort × World :=
  (opened w tier0Id).2.call (.createRouterPort (placedRequest tier1Id tier0PortId placed))

/-- The answer to the call that takes the tier-0 port away again, and what it leaves. -/
def withdrawn (w : World) (tier1Id tier0Id tier0PortId : String) (placed : List UInt32) :
    Except Controller.Error Unit × World :=
  (closed w tier1Id tier0Id tier0PortId placed).2.call (.deleteRouterPort tier0PortId)

/-- How an attempt to link two routers on some of the members ends: what is answered to its calls
and which router ports it leaves. -/
inductive Attempt (w : World) (tier1Id tier0Id : String) (members placed : List UInt32)
    (w' : World) : Except Error LinkPair → Prop where
  /-- There are too few members, and no call is made. -/
  | tooFew (few : members.length < minEdgeMembers) (same : w' = w) :
      Attempt w tier1Id tier0Id members placed w'
        (.error (.invalidInput (.tooFewMembers members.length tier0Id minEdgeMembers)))
  /-- The tier-0 port is refused. -/
  | refused {e : Controller.Error} (enough : minEdgeMembers ≤ members.length)
      (first : (opened w tier0Id).1 = .error e)
      (ports : w'.controller.routerPorts = w.controller.routerPorts) :
      Attempt w tier1Id tier0Id members placed w' (.error (.controller e))
  /-- The tier-1 port is refused, and the tier-0 port is taken away again. -/
  | undone {p : RouterPort} {e : Controller.Error} (enough : minEdgeMembers ≤ members.length)
      (first : (opened w tier0Id).1 = .ok p)
      (second : (closed w tier1Id tier0Id p.id placed).1 = .error e)
      (third : (withdrawn w tier1Id tier0Id p.id placed).1 = .ok ())
      (ports : w'.controller.routerPorts = w.controller.routerPorts) :
      Attempt w tier1Id tier0Id members placed w' (.error (.controller e))
  /-- The tier-1 port is refused, and taking the tier-0 port away is lost. -/
  | orphaned {p : RouterPort} {e e' : Controller.Error}
      (enough : minEdgeMembers ≤ members.length) (first : (opened w tier0Id).1 = .ok p)
      (second : (closed w tier1Id tier0Id p.id placed).1 = .error e)
      (third : (withdrawn w tier1Id tier0Id p.id placed).1 = .error e')
      (lost : w.Lost w' .deleteRouterPort e')
      (ports : w'.controller.routerPorts = w.controller.routerPorts
        ++ [⟨tier0PortAfter w.controller.made.routerPorts tier0Id none, none⟩]) :
      Attempt w tier1Id tier0Id members placed w' (.error (.controller e))
  | linked (enough : minEdgeMembers ≤ members.length)
      (issued : w'.issued = w.issued ++ [.createRouterPort (tier0PortRequest tier0Id),
        .createRouterPort (placedRequest tier1Id
          (routerPortName (w.controller.made.routerPorts + 1)) placed)])
      (ports : w'.controller.routerPorts = w.controller.routerPorts
        ++ [heldTier0Port w.controller.made.routerPorts tier0Id,
          heldTier1Port w.controller.made.routerPorts tier1Id]) :
      Attempt w tier1Id tier0Id members placed w'
        (.ok ⟨tier0PortAfter w.controller.made.routerPorts tier0Id none,
          tier1PortAfter w.controller.made.routerPorts tier1Id⟩)

/-- Taking the last of the router ports away either leaves the others or is lost. -/
theorem deleted_last {w w' : World} {before : List HeldRouterPort} {p : HeldRouterPort}
    {answer : Except Controller.Error Unit} (new : ∀ q ∈ before, q.id ≠ p.id)
    (ports : w.controller.routerPorts = before ++ [p])
    (delete : w.call (.deleteRouterPort p.id) = (answer, w')) :
    (answer = .ok () ∧ w'.controller.routerPorts = before) ∨
      ∃ e, answer = .error e ∧ w.Lost w' .deleteRouterPort e ∧
        w'.controller.routerPorts = before ++ [p] := by
  cases fate : w.callFaults.next (Controller.Call.deleteRouterPort p.id).operation with
  | some e =>
      have lost := World.lost_noted fate
      rw [World.call_lost fate] at delete
      cases delete
      exact Or.inr ⟨e, rfl, lost, ports⟩
  | none =>
      have there : p ∈ w.controller.routerPorts := ports ▸ List.mem_concat_self
      have step : w.controller.perform (.deleteRouterPort p.id) = _ :=
        Controller.State.deleteRouterPort_of_mem
          (s := { w.controller with calls := w.controller.calls ++ [.deleteRouterPort p.id] }) there
      rw [World.call_arrived fate, step] at delete
      cases delete
      refine Or.inl ⟨rfl, ?_⟩
      show Table.remove HeldRouterPort.id p.id w.controller.routerPorts = before
      rw [ports, Table.remove_concat new rfl]

section Answered

variable {w w₁ w₂ w₃ : World} {tier1Id tier0Id : String} {members placed : List UInt32}
  {e : Controller.Error} (enough : minEdgeMembers ≤ members.length)
  (new : ∀ q ∈ w.controller.routerPorts,
    q.id ≠ routerPortName (w.controller.made.routerPorts + 1))
  (first : opened w tier0Id
    = (.ok (tier0PortAfter w.controller.made.routerPorts tier0Id none), w₁))
  (ports : w₁.controller.routerPorts = w.controller.routerPorts
    ++ [⟨tier0PortAfter w.controller.made.routerPorts tier0Id none, none⟩])
include enough new first ports

/-- The tier-1 port is refused. -/
theorem Attempt.of_refused {answer : Except Controller.Error Unit}
    (second : w₁.call (.createRouterPort (placedRequest tier1Id
      (routerPortName (w.controller.made.routerPorts + 1)) placed)) = (.error e, w₂))
    (third : w₂.call (.deleteRouterPort (routerPortName (w.controller.made.routerPorts + 1)))
      = (answer, w₃)) :
    Attempt w tier1Id tier0Id members placed w₃ (.error (.controller e)) := by
  have closed : closed w tier1Id tier0Id (routerPortName (w.controller.made.routerPorts + 1))
      placed = (.error e, w₂) := by
    rw [Router.closed, first]
    exact second
  have withdrawn : withdrawn w tier1Id tier0Id
      (routerPortName (w.controller.made.routerPorts + 1)) placed = (answer, w₃) := by
    rw [Router.withdrawn, closed]
    exact third
  have kept : w₂.controller.routerPorts = w₁.controller.routerPorts := by
    cases World.creating_call second with
    | failed ports made => exact ports
  have refused := congrArg Prod.fst closed
  rcases deleted_last new (kept.trans ports) third with ⟨rfl, restored⟩ | ⟨e', rfl, lost, left⟩
  · exact .undone enough (congrArg Prod.fst first) refused (congrArg Prod.fst withdrawn) restored
  · have before := (World.Follows.of_call first).trans (World.Follows.of_call second)
    have lost := (before.lost_iff (World.Follows.of_call third)).mpr (Or.inr lost)
    exact .orphaned enough (congrArg Prod.fst first) refused (congrArg Prod.fst withdrawn) lost left

/-- The tier-1 port is made, and the tier-0 port is linked back to it. -/
theorem Attempt.of_made {q : RouterPort} (made : w₁.controller.made.routerPorts
      = w.controller.made.routerPorts + 1)
    (second : w₁.call (.createRouterPort (placedRequest tier1Id
      (routerPortName (w.controller.made.routerPorts + 1)) placed)) = (.ok q, w₂))
    (kept : w₃.controller = w₂.controller) (issued : w₃.issued = w₂.issued) :
    Attempt w tier1Id tier0Id members placed w₃
      (.ok ⟨tier0PortAfter w.controller.made.routerPorts tier0Id none, q⟩) := by
  cases World.creating_call second with
  | created ports₂ made₂ =>
      have port : (w₁.controller.newRouterPort (placedRequest tier1Id
          (routerPortName (w.controller.made.routerPorts + 1)) placed))
          = heldTier1Port w.controller.made.routerPorts tier1Id := by
        rw [Controller.State.newRouterPort, made]
        rfl
      have back : w₁.controller.linkedBack (placedRequest tier1Id
          (routerPortName (w.controller.made.routerPorts + 1)) placed)
          = w.controller.routerPorts ++ [heldTier0Port w.controller.made.routerPorts tier0Id] := by
        show Table.modify _ _ _ w₁.controller.routerPorts = _
        rw [ports, made, Table.modify_concat new rfl]
        rfl
      rw [port]
      refine .linked enough ?_ ?_
      · rw [issued, World.issued_call second, World.issued_call first, List.append_assoc]
        rfl
      · rw [kept, ports₂, port, back, List.append_assoc]
        rfl

end Answered

theorem attempt_addLinkBy {w : World} (free : w.controller.NamesFree)
    (choose : Nat → List UInt32 → List UInt32) (tier1Id tier0Id : String)
    (members : List UInt32) :
    (addLinkBy choose tier1Id tier0Id members).Leaves w fun r w' =>
      Attempt w tier1Id tier0Id members (choose minEdgeMembers members) w' r := by
  have new : ∀ q ∈ w.controller.routerPorts,
      q.id ≠ routerPortName (w.controller.made.routerPorts + 1) :=
    fun q hq => free q hq _ (Nat.lt_succ_self _)
  rw [addLinkBy]
  split
  · next few => exact .throw (.tooFew few rfl)
  · next enough =>
    have enough := Nat.le_of_not_lt enough
    refine .called (fun p w₁ first => ?_) fun e w₁ first => ?_
    · cases World.creating_call first with
      | created ports made =>
          refine .tried fun answer w₂ second => ?_
          cases answer with
          | error e =>
              refine .tried fun _ w₃ third => .throw ?_
              exact .of_refused enough new first ports second third
          | ok q =>
              refine .bind (report_leaves (T := fun r w₃ => r = .ok () ∧
                w₃.controller = w₂.controller ∧ w₃.issued = w₂.issued) fun _ =>
                  ⟨rfl, rfl, rfl⟩) ?_ ?_
              · rintro _ w₃ - ⟨-, kept, issued⟩
                exact .pure (.of_made enough new first ports made second kept issued)
              · rintro e w₃ - ⟨⟨⟩, _⟩
    · cases World.creating_call first with
      | failed ports made => exact .refused enough (congrArg Prod.fst first) ports

/-- How an attempt to link ends, without its calls. -/
theorem Attempt.linking {w w' : World} {tier1Id tier0Id : String} {members placed : List UInt32}
    {r : Except Error LinkPair} (h : Attempt w tier1Id tier0Id members placed w' r) :
    Linking w tier1Id tier0Id w' r := by
  cases h with
  | tooFew few same => exact .unchanged (same ▸ rfl)
  | refused enough first ports => exact .unchanged ports
  | undone enough first second third ports => exact .unchanged ports
  | orphaned enough first second third lost ports => exact .orphaned lost ports
  | linked enough issued ports => exact .linked ports

theorem linking_addLink {w : World} (named : w.controller.PortsNamed) (tier1Id tier0Id : String)
    (members : List UInt32) :
    (addLink tier1Id tier0Id members).Leaves w fun r w' => Linking w tier1Id tier0Id w' r := by
  rw [addLink_eq_addLinkBy]
  exact (attempt_addLinkBy named.namesFree _ tier1Id tier0Id members).mono
    fun _ _ _ attempt => attempt.linking

/-- The router ports and how many have been made are what they were. -/
structure PortsKept (w w' : World) : Prop where
  ports : w'.controller.routerPorts = w.controller.routerPorts
  made : w'.controller.made.routerPorts = w.controller.made.routerPorts

instance : IsPreorder World PortsKept where
  refl _ := ⟨rfl, rfl⟩
  trans _ _ _ h h' := ⟨h'.ports.trans h.ports, h'.made.trans h.made⟩

theorem PortsKept.portsNamed {w w' : World} (kept : PortsKept w w')
    (named : w.controller.PortsNamed) : w'.controller.PortsNamed :=
  named.of_sublist (kept.ports ▸ List.Sublist.refl _) (Nat.le_of_eq kept.made.symm)

/-- What is asked for when a tier-0 router is validated. -/
def Validates : Request → Prop
  | .call (.getRouter _) | .call (.getEdgeCluster _) | .validated _ | .remember _ => True
  | _ => False

theorem portsKept_of_validates {r : Request} (h : Validates r) (w : World) :
    PortsKept w (w.answer r).2 := by
  match r, h with
  | .validated id, _ => exact ⟨rfl, rfl⟩
  | .remember t, _ => exact ⟨rfl, rfl⟩
  | .call (.getRouter id), _ | .call (.getEdgeCluster id), _ =>
      rw [World.answer, World.call]
      split <;> exact ⟨rfl, rfl⟩

theorem validates_validateTier0 (tier0Id : String) : (validateTier0 tier0Id).Within Validates := by
  refine .bind ⟨trivial, fun _ => trivial⟩ fun known => ?_
  cases known with
  | some t => exact .pure t
  | none =>
      refine .bind ?_ fun t => .bind ⟨trivial, fun _ => trivial⟩ fun _ => .pure t
      refine .bind (.call trivial) fun router => ?_
      cases router with
      | none => exact .throw _
      | some r =>
          dsimp only
          cases clusterOf r with
          | none => exact .throw _
          | some clusterId =>
              refine .bind (.call trivial) fun cluster => ?_
              exact .ite (fun _ => .bind (.throw _) fun _ => .pure _) fun _ => .pure _

/-- What came before a link without touching the router ports does not matter. -/
theorem Linking.after {w w₁ w' : World} {tier1Id tier0Id : String} {r : Except Error LinkPair}
    (kept : PortsKept w w₁) (f : w.Follows w₁) (f' : w₁.Follows w')
    (h : Linking w₁ tier1Id tier0Id w' r) : Linking w tier1Id tier0Id w' r := by
  cases h with
  | unchanged ports => exact .unchanged (ports.trans kept.ports)
  | orphaned lost ports =>
      rw [kept.ports, kept.made] at ports
      exact .orphaned ((f.lost_iff f').mpr (Or.inr lost)) ports
  | linked ports =>
      rw [kept.ports, kept.made] at ports
      rw [kept.made]
      exact .linked ports

theorem linking_link {w : World} (named : w.controller.PortsNamed) (tier1Id tier0Id : String) :
    (link tier1Id tier0Id).Leaves w fun r w' => Linking w tier1Id tier0Id w' r := by
  have validated : (validateTier0 tier0Id).Leaves w fun _ w' => PortsKept w w' :=
    Keeps.of_within (validates_validateTier0 tier0Id) (fun _ h w => portsKept_of_validates h w) w
  refine .bind validated (fun tier0 w₁ f₁ kept => ?_) fun e w₁ _ kept => .unchanged kept.ports
  exact (linking_addLink (kept.portsNamed named) tier1Id tier0Id tier0.members).mono
    fun r w' f' linking => linking.after kept f₁ f'

/-! ## Unlinking -/

/-- What comes of taking a router port away, and the router ports that are left. -/
inductive Removing (w : World) (id : String) (w' : World) : Except Error Unit → Prop where
  | lost {e : Controller.Error} (lost : w.Lost w' .deleteRouterPort e)
      (ports : w'.controller.routerPorts = w.controller.routerPorts) :
      Removing w id w' (.error (.controller e))
  | absent (absent : ∀ p ∈ w.controller.routerPorts, p.id ≠ id)
      (ports : w'.controller.routerPorts = w.controller.routerPorts) :
      Removing w id w' (.error (.controller ⟨.notFound, s!"router port {id}"⟩))
  | removed {p : HeldRouterPort} (there : p ∈ w.controller.routerPorts) (key : p.id = id)
      (arrived : ∀ e, ¬ w.Lost w' .deleteRouterPort e)
      (ports : w'.controller.routerPorts
        = Table.remove HeldRouterPort.id id w.controller.routerPorts) :
      Removing w id w' (.ok ())

theorem removing_deleteRouterPort (w : World) (id : String) :
    (call (.deleteRouterPort id)).Leaves w fun r w' => Removing w id w' r := by
  refine .call (fun e fate => .lost (World.lost_noted fate) rfl) fun fate => ?_
  have arrived := not_lost_of_arrived fate
  by_cases there : ∃ p ∈ w.controller.routerPorts, p.id = id
  · obtain ⟨p, hp, rfl⟩ := there
    have step : w.controller.perform (.deleteRouterPort p.id) = _ :=
      Controller.State.deleteRouterPort_of_mem
        (s := { w.controller with calls := w.controller.calls ++ [.deleteRouterPort p.id] }) hp
    rw [step] at arrived ⊢
    exact .removed hp rfl arrived rfl
  · have absent : ∀ p ∈ w.controller.routerPorts, p.id ≠ id :=
      fun p hp same => there ⟨p, hp, same⟩
    have step : w.controller.perform (.deleteRouterPort id) = _ :=
      Controller.State.deleteRouterPort_of_absent
        (s := { w.controller with calls := w.controller.calls ++ [.deleteRouterPort id] }) absent
    rw [step]
    exact .absent absent rfl

/-- What comes of looking for a router's link port; nothing is changed by it. -/
inductive Seeking (w : World) (routerId : String) (w' : World) :
    Except Error (Option RouterPort) → Prop where
  | lost {e : Controller.Error} (lost : w.Lost w' .getLinkPort e)
      (ports : w'.controller.routerPorts = w.controller.routerPorts) :
      Seeking w routerId w' (.error (.controller e))
  | answered (arrived : ∀ e, ¬ w.Lost w' .deleteRouterPort e)
      (ports : w'.controller.routerPorts = w.controller.routerPorts) :
      Seeking w routerId w' (.ok ((w.controller.linkPortOf routerId).map (·.port)))

theorem seeking_getLinkPort (w : World) (routerId : String) :
    (call (.getLinkPort routerId)).Leaves w fun r w' => Seeking w routerId w' r := by
  refine .call (fun e fate => .lost (World.lost_noted fate) rfl) fun fate => ?_
  exact .answered (not_lost_of_arrived fate) rfl

theorem unlinking_removeLink (w : World) (tier1Id tier0Id : String) :
    (removeLink tier1Id tier0Id).Leaves w fun r w' => Unlinking w tier1Id w' r := by
  refine .bind (seeking_getLinkPort w tier1Id) ?_ ?_
  · rintro _ w₁ f₁ (_ | ⟨arrived₁, same⟩)
    cases first : w.controller.linkPortOf tier1Id with
    | none => exact .pure (.unlinked first same)
    | some p =>
        refine .bind (removing_deleteRouterPort w₁ p.id) ?_ ?_
        · rintro ⟨⟩ w₂ f₂ (_ | _ | ⟨-, -, arrived₂, ports⟩)
          rw [same] at ports
          cases names : p.port.linkedPortId with
          | none => exact report_leaves fun _ => .single first names ports
          | some peer =>
              refine .bind (removing_deleteRouterPort w₂ peer) ?_ ?_
              · rintro ⟨⟩ w₃ f₃ (_ | _ | ⟨there, rfl, arrived₃, rest⟩)
                rw [ports] at there rest
                obtain ⟨there, other⟩ := Table.mem_remove.mp there
                have arrived : ∀ e, ¬ w.Lost w₃ .deleteRouterPort e := fun e => by
                  rw [(f₁.trans f₂).lost_iff f₃, f₁.lost_iff f₂]
                  exact not_or.mpr ⟨not_or.mpr ⟨arrived₁ e, arrived₂ e⟩, arrived₃ e⟩
                exact report_leaves fun _ => .parted first names there other arrived rest
              · rintro e w₃ f₃ (⟨lost, rest⟩ | ⟨absent, rest⟩ | _)
                · have lost := ((f₁.trans f₂).lost_iff f₃).mpr (Or.inr lost)
                  exact .halved first names lost (rest.trans ports)
                · rw [ports] at absent
                  exact .dangling first names
                    (fun q hq other => absent q (Table.mem_remove.mpr ⟨hq, other⟩))
                    (rest.trans ports)
        · rintro e w₂ f₂ (⟨lost, rest⟩ | ⟨absent, -⟩ | _)
          · exact .kept first ((f₁.lost_iff f₂).mpr (Or.inr lost)) (rest.trans same)
          · rw [same] at absent
            exact absurd rfl (absent p (Controller.State.mem_of_linkPortOf first).1)
  · rintro e w₁ - (⟨lost, same⟩ | _)
    exact .unseen lost same

end Overlay.Router
