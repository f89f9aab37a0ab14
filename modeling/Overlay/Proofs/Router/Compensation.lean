import Mathlib.Data.List.Perm.Subperm
import Overlay.Proofs.Router.Links

/-!
# A link is made whole or not at all

A link takes two calls, and a third one takes the first port away again if the second call fails.
Whichever of the calls fail, and however the members are chosen on which the tier-1 port is placed,
either both ports are made and name each other, or the router ports are what they were; only if the
third call fails as well does the tier-0 port stay, without a peer. The error that is passed on is
never that of the third call. To choose the members that come first, as `addLink` does, is one way
among others (`addLink_eq_addLinkBy`).

Main statement: `link_whole_or_undone`.
-/

namespace Overlay.Router

open Overlay.Handler
open Overlay.Controller (HeldRouterPort)

variable {w w' : World} {tier1Id tier0Id : String} {members placed : List UInt32} {e : Error}

/-- A choice at random as far as it can be relied on: there are as many members as were asked for,
unless fewer are given, and each is there at most as often as it is given. -/
structure Samples (choose : Nat → List UInt32 → List UInt32) : Prop where
  length : ∀ k members, (choose k members).length = min k members.length
  subperm : ∀ k members, (choose k members).Subperm members

theorem samples_take : Samples fun k members => members.take k where
  length _ _ := List.length_take
  subperm k members := (List.take_sublist k members).subperm

/-- Why an attempt to link fails. -/
inductive Cause (w : World) (tier1Id tier0Id : String) (members placed : List UInt32)
    (w' : World) : Error → Prop where
  /-- There are too few members. Then nothing is called. -/
  | tooFew (few : members.length < minEdgeMembers) (same : w' = w) :
      Cause w tier1Id tier0Id members placed w'
        (.invalidInput (.tooFewMembers members.length tier0Id minEdgeMembers))
  /-- The tier-0 port is refused, with this error. -/
  | first {e : Controller.Error} (enough : minEdgeMembers ≤ members.length)
      (refused : (opened w tier0Id).1 = .error e) :
      Cause w tier1Id tier0Id members placed w' (.controller e)
  /-- The tier-0 port is made and the tier-1 port is refused, with this error. -/
  | second {p : RouterPort} {e : Controller.Error} (enough : minEdgeMembers ≤ members.length)
      (made : (opened w tier0Id).1 = .ok p)
      (refused : (closed w tier1Id tier0Id p.id placed).1 = .error e) :
      Cause w tier1Id tier0Id members placed w' (.controller e)

/-- The tier-0 port is made, the tier-1 port is refused, and so is it to take the tier-0 port away. -/
def Stuck (w : World) (tier1Id tier0Id : String) (members placed : List UInt32) : Prop :=
  minEdgeMembers ≤ members.length ∧ ∃ p e e', (opened w tier0Id).1 = .ok p ∧
    (closed w tier1Id tier0Id p.id placed).1 = .error e ∧
    (withdrawn w tier1Id tier0Id p.id placed).1 = .error e'

theorem Attempt.cause (h : Attempt w tier1Id tier0Id members placed w' (.error e)) :
    Cause w tier1Id tier0Id members placed w' e := by
  cases h with
  | tooFew few same => exact .tooFew few same
  | refused enough first ports => exact .first enough first
  | undone enough first second third ports => exact .second enough first second
  | orphaned enough first second third lost ports => exact .second enough first second

/-- What is left of a failed attempt is the tier-0 port if it is stuck, and otherwise nothing. -/
theorem Attempt.left (h : Attempt w tier1Id tier0Id members placed w' (.error e)) :
    (Stuck w tier1Id tier0Id members placed ∧ w'.controller.routerPorts
        = w.controller.routerPorts
          ++ [⟨tier0PortAfter w.controller.made.routerPorts tier0Id none, none⟩]) ∨
      (¬ Stuck w tier1Id tier0Id members placed ∧
        w'.controller.routerPorts = w.controller.routerPorts) := by
  -- only the last way to fail leaves a port: the cleanup fails as well
  cases h with
  | tooFew few same =>
      right
      constructor
      · rintro ⟨enough, -⟩
        exact absurd few (Nat.not_lt_of_le enough)
      · rw [same]
  | refused enough first ports =>
      right
      constructor
      · rintro ⟨-, p, -, -, made, -⟩
        exact nomatch first.symm.trans made
      · exact ports
  | undone enough first second third ports =>
      right
      constructor
      · rintro ⟨-, p, -, e', made, -, failed⟩
        cases first.symm.trans made
        exact nomatch third.symm.trans failed
      · exact ports
  | orphaned enough first second third lost ports =>
      left
      exact ⟨⟨enough, _, _, _, first, second, third⟩, ports⟩

/-- Linking two routers either makes a pair of ports that name each other, the tier-1 port on so many
of the members as are needed, or fails with the error of the call that made no port. Then the router
ports are what they were, but for the tier-0 port if it cannot be taken away again. -/
theorem link_whole_or_undone {choose : Nat → List UInt32 → List UInt32} (samples : Samples choose)
    (free : w.controller.NamesFree) (tier1Id tier0Id : String) (members : List UInt32) :
    let after := (addLinkBy choose tier1Id tier0Id members).runIn w
    let placed := choose minEdgeMembers members
    (∀ pair, after.1 = .ok pair →
      (∃ p q, after.2.controller.routerPorts = w.controller.routerPorts ++ [q, p] ∧ p.id ≠ q.id ∧
        Joins after.2.controller tier1Id tier0Id p q ∧
        pair.tier1Port.id = p.id ∧ pair.tier0Port.id = q.id) ∧
      after.2.issued = w.issued ++ [.createRouterPort (tier0PortRequest tier0Id),
        .createRouterPort (placedRequest tier1Id pair.tier0Port.id placed)] ∧
      placed.length = minEdgeMembers ∧ placed.Subperm members) ∧
    ∀ e, after.1 = .error e →
      Cause w tier1Id tier0Id members placed after.2 e ∧
      ((Stuck w tier1Id tier0Id members placed ∧
          ∃ q, after.2.controller.routerPorts = w.controller.routerPorts ++ [q] ∧
            q.port.kind = .link ∧ q.port.routerId = tier0Id ∧ q.port.linkedPortId = none) ∨
        (¬ Stuck w tier1Id tier0Id members placed ∧
          after.2.controller.routerPorts = w.controller.routerPorts)) := by
  have attempt := attempt_addLinkBy free choose tier1Id tier0Id members
  unfold Leaves at attempt
  generalize (addLinkBy choose tier1Id tier0Id members).runIn w = after at attempt ⊢
  obtain ⟨result, w'⟩ := after
  constructor
  · rintro pair ⟨⟩
    cases attempt with
    | linked enough issued ports =>
        refine ⟨⟨_, _, ports, fun same => ?_, joins_new ports, rfl, rfl⟩, issued, ?_,
          samples.subperm _ _⟩
        · have number := Controller.State.routerPortName_inj same
          omega
        · rw [samples.length, Nat.min_eq_left enough]
  · rintro e ⟨⟩
    refine ⟨attempt.cause, attempt.left.imp_left ?_⟩
    rintro ⟨stuck, ports⟩
    exact ⟨stuck, _, ports, rfl, rfl, rfl⟩

namespace Sample

/-- One router has been linked; from now on the next router port is made, and then neither is a port
made nor one taken away. -/
def linkedThenStuck : World :=
  { ((addLink "t2" "t0" [0]).runIn (World.empty false Clock.counting)).2 with
    callFaults := (Faults.none.set .createRouterPort (.window ⟨.request, "no second"⟩ 1 none)).set
      .deleteRouterPort (.window ⟨.request, "no cleanup"⟩ 0 none) }

end Sample

/-- When the third call fails too, the tier-0 port stays beside the ports that there were, and the
error is that of the second call. -/
theorem tier0Port_left_when_stuck :
    ((addLink "t1" "t0" [3, 4, 5]).runIn Sample.linkedThenStuck).1
        = .error (.controller ⟨.request, "no second"⟩) ∧
      ∃ q, ((addLink "t1" "t0" [3, 4, 5]).runIn Sample.linkedThenStuck).2.controller.routerPorts
          = Sample.linkedThenStuck.controller.routerPorts ++ [q] ∧
        q.port.kind = .link ∧ q.port.routerId = "t0" ∧ q.port.linkedPortId = none := by
  have free : Sample.linkedThenStuck.controller.NamesFree :=
    (World.portsNamed_run (addLink "t2" "t0" [0]).run (.of_nil rfl)).namesFree
  have failed : ((addLink "t1" "t0" [3, 4, 5]).runIn Sample.linkedThenStuck).1
      = .error (.controller ⟨.request, "no second"⟩) := rfl
  have stuck : Stuck Sample.linkedThenStuck "t1" "t0" [3, 4, 5] [3] :=
    ⟨by decide, tier0PortAfter 2 "t0" none, _, _, rfl, rfl, rfl⟩
  obtain ⟨-, undone⟩ := link_whole_or_undone samples_take free "t1" "t0" [3, 4, 5]
  rw [← addLink_eq_addLinkBy] at undone
  rcases (undone _ failed).2 with ⟨-, left⟩ | ⟨free, -⟩
  · exact ⟨failed, left⟩
  · exact absurd stuck free

end Overlay.Router
