import Overlay.Proofs.Router.Links
import Overlay.Proofs.Router.Unlinking

/-!
# Unlinking when ports are missing

A router without a link port is left alone. Otherwise its first link port and the port that it names
as its peer are taken away, and it does not matter for what is left whether the peer was there; but
it matters for the answer, since taking away a port that is not there is an error that is passed on.

Main statement: `unlinked_iff_peer_there`.
-/

namespace Overlay

namespace Handler

variable {α β : Type}

/-- The handler ends well only if none of its calls was lost. -/
def Strict (h : Handler α) : Prop :=
  ∀ w, h.Leaves w fun r w' => ∀ a, r = .ok a → ∀ op e, ¬ w.Lost w' op e

namespace Strict

theorem pure (a : α) : Strict (Pure.pure a) := fun _ => Leaves.pure fun _ _ _ _ =>
  World.not_lost rfl

theorem call (c : Controller.Call) : (Handler.call c).Strict := by
  intro w
  unfold Leaves
  rw [runIn_call]
  intro a ok op e lost
  obtain ⟨same, fate⟩ := World.lost_call_iff.mp lost
  rw [same] at fate
  rw [World.call_lost fate] at ok
  exact nomatch ok

theorem report (e : Audit.Event) : (Handler.report e).Strict := fun _ =>
  Leaves.report (fun _ _ _ _ _ => World.not_lost rfl) fun _ _ _ _ _ => World.not_lost rfl

theorem bind {h : Handler α} {f : α → Handler β} (first : h.Strict) (rest : ∀ a, (f a).Strict) :
    (h >>= f).Strict := by
  intro w
  refine Leaves.bind (P := fun r w' => ∀ a, r = .ok a → ∀ op e, ¬ w.Lost w' op e) (first w) ?_
    fun e w' _ _ => nofun
  intro a w₁ before clean
  refine (rest a w₁).mono fun r w₂ after clean' b ok op e lost => ?_
  rcases (before.lost_iff after).mp lost with early | late
  · exact clean a rfl op e early
  · exact clean' b ok op e late

end Strict

end Handler

namespace Router

open Overlay.Handler
open Overlay.Controller (HeldRouterPort)

variable {w : World}

theorem strict_removeLink (tier1Id tier0Id : String) : (removeLink tier1Id tier0Id).Strict := by
  refine .bind (.call _) fun found => ?_
  cases found with
  | none => exact .pure ()
  | some port =>
      refine .bind (.call _) fun _ => ?_
      cases port.linkedPortId with
      | none => exact .report _
      | some peer => exact .bind (.call _) fun _ => .report _

/-- A router without a link port is asked for it, and that is all. -/
theorem issued_unlinked {tier1Id : String} (none : w.controller.linkPortOf tier1Id = none)
    (tier0Id : String) :
    (removeLink tier1Id tier0Id).Leaves w fun _ w' =>
      w'.issued = w.issued ++ [.getLinkPort tier1Id] := by
  refine .called (fun found w₁ look => ?_) fun e w₁ look => World.issued_call look
  have issued := World.issued_call look
  cases fate : w.callFaults.next (Controller.Call.getLinkPort tier1Id).operation with
  | some e =>
      rw [World.call_lost fate] at look
      exact nomatch look
  | none =>
      have absent : (w.controller.perform (.getLinkPort tier1Id)).1 = .ok Option.none := by
        show Except.ok ((w.controller.linkPortOf tier1Id).map (·.port)) = _
        rw [none]
        rfl
      rw [World.call_arrived fate, absent] at look
      cases look
      exact .pure issued

/-- The router ports without a port and its peer. -/
def without (p : HeldRouterPort) (ports : List HeldRouterPort) : List HeldRouterPort :=
  ports.filter fun e => e.id ≠ p.id ∧ p.port.linkedPortId ≠ some e.id

section Unlinking

variable {w' : World} {tier1Id : String} {r : Except Error Unit}

/-- If no call was lost, unlinking ends well if and only if the peer is there. -/
theorem Unlinking.ok_iff (step : Unlinking w tier1Id w' r) (arrived : ∀ op e, ¬ w.Lost w' op e) :
    r = .ok () ↔ ∀ p peer, w.controller.linkPortOf tier1Id = some p →
      p.port.linkedPortId = some peer → ∃ q ∈ w.controller.routerPorts, q.id = peer ∧ q.id ≠ p.id := by
  cases step with
  | unseen lost ports => exact absurd lost (arrived _ _)
  | unlinked none ports => exact ⟨fun _ _ _ found => (nomatch none.symm.trans found), fun _ => rfl⟩
  | kept first lost ports => exact absurd lost (arrived _ _)
  | halved first names lost ports => exact absurd lost (arrived _ _)
  | dangling first names gone ports =>
      refine ⟨nofun, fun present => ?_⟩
      obtain ⟨q, hq, same, other⟩ := present _ _ first names
      exact absurd same (gone q hq other)
  | single first names ports =>
      refine ⟨fun _ p peer found named => ?_, fun _ => rfl⟩
      cases Option.some.inj (first.symm.trans found)
      exact nomatch names.symm.trans named
  | parted first names there other _ ports =>
      refine ⟨fun _ p peer found named => ?_, fun _ => rfl⟩
      cases Option.some.inj (first.symm.trans found)
      exact ⟨_, there, Option.some.inj (names.symm.trans named), other⟩

/-- Where lost calls report that something is missing, every error of unlinking does. -/
theorem Unlinking.notFound_of_error (step : Unlinking w tier1Id w' r)
    (missing : ∀ op n e, (w.callFaults.pattern op).failing n = some e → e.kind = .notFound)
    {e : Error} (failed : r = .error e) : ∃ detail, e = .controller ⟨.notFound, detail⟩ := by
  cases failed
  cases step with
  | @unseen e lost ports | @kept _ e first lost ports | @halved _ _ e first names lost ports =>
      obtain ⟨n, -, -, fails⟩ := lost
      have kind := missing _ n e fails
      exact ⟨e.detail, congrArg (fun k => Error.controller ⟨k, e.detail⟩) kind⟩
  | dangling first names gone ports => exact ⟨_, rfl⟩

/-- If no call was lost, then of the ports only the first link port and its peer are missing. -/
theorem Unlinking.without {p : HeldRouterPort} (step : Unlinking w tier1Id w' r)
    (arrived : ∀ op e, ¬ w.Lost w' op e) (found : w.controller.linkPortOf tier1Id = some p) :
    w'.controller.routerPorts = Router.without p w.controller.routerPorts := by
  cases step with
  | unseen lost ports => exact absurd lost (arrived _ _)
  | unlinked none ports => exact nomatch none.symm.trans found
  | kept first lost ports => exact absurd lost (arrived _ _)
  | halved first names lost ports => exact absurd lost (arrived _ _)
  | dangling first names gone ports =>
      cases Option.some.inj (first.symm.trans found)
      rw [ports]
      refine List.filter_congr fun e he => decide_eq_decide.mpr ?_
      rw [names]
      exact ⟨fun other => ⟨other, fun same => gone e he other (Option.some.inj same).symm⟩, And.left⟩
  | single first names ports =>
      cases Option.some.inj (first.symm.trans found)
      rw [ports]
      refine List.filter_congr fun e he => decide_eq_decide.mpr ?_
      rw [names]
      exact ⟨fun other => ⟨other, nofun⟩, And.left⟩
  | parted first names there other _ ports =>
      cases Option.some.inj (first.symm.trans found)
      rw [ports, Table.remove, Table.remove, List.filter_filter]
      refine List.filter_congr fun e he => ?_
      rw [names]
      simp only [ne_eq, Option.some.injEq, eq_comm (b := e.id), Bool.decide_and, Bool.and_comm]

end Unlinking

/-- Unlinking ends well if and only if no call was lost and the peer of the first link port, if it
names one, is there and another port. Whichever it is, the first link port and its peer are gone
afterwards and the other ports stay; and without a link port there is nothing but the look-up. -/
theorem unlinked_iff_peer_there
    (missing : ∀ op n e, (w.callFaults.pattern op).failing n = some e → e.kind = .notFound)
    (tier1Id tier0Id : String) :
    let after := (removeLink tier1Id tier0Id).runIn w
    (after.1 = .ok () ↔ (∀ op e, ¬ w.Lost after.2 op e) ∧
      ∀ p peer, w.controller.linkPortOf tier1Id = some p → p.port.linkedPortId = some peer →
        ∃ q ∈ w.controller.routerPorts, q.id = peer ∧ q.id ≠ p.id) ∧
    (∀ e, after.1 = .error e → ∃ detail, e = .controller ⟨.notFound, detail⟩) ∧
    ((∀ op e, ¬ w.Lost after.2 op e) → ∀ p, w.controller.linkPortOf tier1Id = some p →
      after.2.controller.routerPorts = without p w.controller.routerPorts) ∧
    (w.controller.linkPortOf tier1Id = none →
      after.2.issued = w.issued ++ [.getLinkPort tier1Id] ∧
        after.2.controller.routerPorts = w.controller.routerPorts) := by
  have unlinking := unlinking_removeLink w tier1Id tier0Id
  have clean := strict_removeLink tier1Id tier0Id w
  have look (none : w.controller.linkPortOf tier1Id = none) := issued_unlinked none tier0Id
  unfold Leaves at unlinking clean look
  generalize (removeLink tier1Id tier0Id).runIn w = after at unlinking clean look ⊢
  obtain ⟨result, w'⟩ := after
  refine ⟨⟨?_, ?_⟩, fun e failed => unlinking.notFound_of_error missing failed,
    fun arrived p found => unlinking.without arrived found,
    fun none => ⟨look none, unlinking_none none unlinking⟩⟩
  · intro ok
    have arrived := clean () ok
    exact ⟨arrived, (unlinking.ok_iff arrived).mp ok⟩
  · rintro ⟨arrived, present⟩
    exact (unlinking.ok_iff arrived).mpr present

namespace Sample

/-- Two routers are linked. -/
def joined : World := ((addLink "t1" "t0" [0]).runIn empty).2

/-- Somebody else has taken the tier-0 port of the link away. -/
def bereft : World := ((call (.deleteRouterPort "lrp-1")).runIn joined).2

theorem undisturbed_joined : Undisturbed joined :=
  Undisturbed.follows (fun _ _ => rfl) (follows_runIn (addLink "t1" "t0" [0]) empty)

theorem undisturbed_bereft : Undisturbed bereft :=
  undisturbed_joined.follows (follows_runIn (call (.deleteRouterPort "lrp-1")) joined)

end Sample

/-- A link whose ports are both there is taken away, and unlinking ends well. -/
theorem intact_link_unlinked :
    ((removeLink "t1" "t0").runIn Sample.joined).1 = .ok () ∧
      ((removeLink "t1" "t0").runIn Sample.joined).2.controller.routerPorts = [] := by
  have arrived : ∀ op e, ¬ Sample.joined.Lost
      ((removeLink "t1" "t0").runIn Sample.joined).2 op e := fun op e =>
    Sample.undisturbed_joined.not_lost op e
  have found : Sample.joined.controller.linkPortOf "t1" = some (heldTier1Port 0 "t1") := rfl
  obtain ⟨ok, -, left, -⟩ := unlinked_iff_peer_there (w := Sample.joined)
    (fun op n e fails => nomatch (Sample.undisturbed_joined op n).symm.trans fails) "t1" "t0"
  refine ⟨ok.mpr ⟨arrived, fun p peer first names => ?_⟩, left arrived _ found⟩
  cases Option.some.inj (found.symm.trans first)
  exact ⟨heldTier0Port 0 "t0", by decide +kernel, Option.some.inj names, by decide +kernel⟩

/-- If the peer is gone already, unlinking takes the tier-1 port away and ends in an error although
no call was lost. -/
theorem peer_gone_refused :
    Undisturbed Sample.bereft ∧ Table.Keyed HeldRouterPort.id Sample.bereft.controller.routerPorts ∧
      (∃ p, Sample.bereft.controller.linkPortOf "t1" = some p) ∧
      ((removeLink "t1" "t0").runIn Sample.bereft).1
        = .error (.controller ⟨.notFound, "router port lrp-1"⟩) ∧
      ((removeLink "t1" "t0").runIn Sample.bereft).2.controller.routerPorts = [] :=
  ⟨Sample.undisturbed_bereft, by decide +kernel, ⟨heldTier1Port 0 "t1", rfl⟩, rfl, rfl⟩

end Router

end Overlay
