import Overlay.Proofs.Router.Outcome

/-!
# Unlinking that is tried again

A new pair of link ports is taken away by attempts of which any call may be lost. An attempt looks
for the link port of the tier-1 router, takes it away and then its peer. If the second removal is
lost, the next attempt does not find the tier-1 port any more and takes the router for unlinked, so
the tier-0 port stays (`Strands`). Only a router that is linked to itself is found again by the port
that is left.

Main statement: `pair_gone_iff_not_stranded`.
-/

namespace Overlay.Router

open Overlay.Handler
open Overlay.Controller (HeldRouterPort)

variable {w v v' : World} {before ports : List HeldRouterPort} {p q : HeldRouterPort}
  {tier1Id tier0Id : String} {r : Except Error Unit}

/-! ## What is left of a pair -/

/-- The router ports are those that there were before, and these. -/
def Left (before : List HeldRouterPort) (extra : HeldRouterPort → Prop)
    (ports : List HeldRouterPort) : Prop :=
  ∀ e, e ∈ ports ↔ e ∈ before ∨ extra e

/-- The router ports are those that there were before, and none, one or both of two. -/
def SomeLeft (before : List HeldRouterPort) (p q : HeldRouterPort)
    (ports : List HeldRouterPort) : Prop :=
  Left before (fun e => e = p ∨ e = q) ports ∨ Left before (· = p) ports ∨
    Left before (· = q) ports ∨ Left before (fun _ => False) ports

/-- Two ports that name each other, with names that no port had before. -/
structure NewPair (before : List HeldRouterPort) (p q : HeldRouterPort) : Prop where
  fresh : ∀ e ∈ before, e.id ≠ p.id ∧ e.id ≠ q.id
  other : p.id ≠ q.id
  names : p.port.linkedPortId = some q.id
  back : q.port.linkedPortId = some p.id

namespace NewPair

/-- Either port of a new pair may be taken as the first. -/
theorem swap (pair : NewPair before p q) : NewPair before q p :=
  ⟨fun e he => (pair.fresh e he).symm, pair.other.symm, pair.back, pair.names⟩

/-- When the first port of the pair is removed, the second is left. -/
theorem remove_first (pair : NewPair before p q)
    (both : Left before (fun e => e = p ∨ e = q) ports) :
    Left before (· = q) (Table.remove HeldRouterPort.id p.id ports) := by
  intro e
  rw [Table.mem_remove, both e]
  constructor
  · rintro ⟨old | rfl | rfl, other⟩
    · exact Or.inl old
    · exact absurd rfl other
    · exact Or.inr rfl
  · rintro (old | rfl)
    · exact ⟨Or.inl old, (pair.fresh e old).1⟩
    · exact ⟨Or.inr (Or.inr rfl), pair.other.symm⟩

/-- When the second port is removed as well, nothing of the pair is left. -/
theorem remove_second (pair : NewPair before p q) (half : Left before (· = q) ports) :
    Left before (fun _ => False) (Table.remove HeldRouterPort.id q.id ports) := by
  intro e
  rw [Table.mem_remove, half e, or_false]
  constructor
  · rintro ⟨old | rfl, other⟩
    · exact old
    · exact absurd rfl other
  · intro old
    exact ⟨Or.inl old, (pair.fresh e old).2⟩

/-! ## One attempt -/

/-- An attempt that finds a port of the whole pair leaves all of it, the peer, or nothing. -/
theorem unlinking_both (pair : NewPair before p q)
    (both : Left before (fun e => e = p ∨ e = q) v.controller.routerPorts)
    (found : v.controller.linkPortOf tier1Id = some p) (step : Unlinking v tier1Id v' r) :
    ((∃ e, r = .error e) ∧ v'.controller.routerPorts = v.controller.routerPorts) ∨
      ((∃ e, r = .error e) ∧ (∃ e, v.Lost v' .deleteRouterPort e) ∧
        Left before (· = q) v'.controller.routerPorts) ∨
      ((∀ e, ¬ v.Lost v' .deleteRouterPort e) ∧
        Left before (fun _ => False) v'.controller.routerPorts) := by
  have there : q ∈ v.controller.routerPorts := (both q).mpr (Or.inr (Or.inr rfl))
  cases step with
  | unseen lost ports => exact Or.inl ⟨⟨_, rfl⟩, ports⟩
  | unlinked none ports => exact nomatch none.symm.trans found
  | kept first lost ports => exact Or.inl ⟨⟨_, rfl⟩, ports⟩
  | halved first names lost ports =>
      cases Option.some.inj (first.symm.trans found)
      exact Or.inr (Or.inl ⟨⟨_, rfl⟩, ⟨_, lost⟩, ports ▸ pair.remove_first both⟩)
  | dangling first names gone ports =>
      cases Option.some.inj (first.symm.trans found)
      exact absurd (Option.some.inj (pair.names.symm.trans names)) (gone q there pair.other.symm)
  | single first names ports =>
      cases Option.some.inj (first.symm.trans found)
      exact nomatch pair.names.symm.trans names
  | parted first names _ _ arrived ports =>
      cases Option.some.inj (first.symm.trans found)
      rw [← Option.some.inj (pair.names.symm.trans names)] at ports
      exact Or.inr (Or.inr ⟨arrived, ports ▸ pair.remove_second (pair.remove_first both)⟩)

/-- An attempt that finds the port that is left of the pair fails, since its peer is gone. -/
theorem unlinking_half (pair : NewPair before p q)
    (half : Left before (· = q) v.controller.routerPorts)
    (found : v.controller.linkPortOf tier1Id = some q) (step : Unlinking v tier1Id v' r) :
    (∃ e, r = .error e) ∧ (v'.controller.routerPorts = v.controller.routerPorts ∨
      Left before (fun _ => False) v'.controller.routerPorts) := by
  cases step with
  | unseen lost ports => exact ⟨⟨_, rfl⟩, Or.inl ports⟩
  | unlinked none ports => exact nomatch none.symm.trans found
  | kept first lost ports => exact ⟨⟨_, rfl⟩, Or.inl ports⟩
  | halved first names lost ports =>
      cases Option.some.inj (first.symm.trans found)
      exact ⟨⟨_, rfl⟩, Or.inr (ports ▸ pair.remove_second half)⟩
  | dangling first names gone ports =>
      cases Option.some.inj (first.symm.trans found)
      exact ⟨⟨_, rfl⟩, Or.inr (ports ▸ pair.remove_second half)⟩
  | single first names ports =>
      cases Option.some.inj (first.symm.trans found)
      exact nomatch pair.back.symm.trans names
  | @parted x y first names there other arrived ports =>
      cases Option.some.inj (first.symm.trans found)
      have peer : p.id = y.id := Option.some.inj (pair.back.symm.trans names)
      rcases (half y).mp there with old | rfl
      · exact absurd peer.symm (pair.fresh y old).1
      · exact absurd peer pair.other

end NewPair

/-- An attempt that finds no port leaves everything. -/
theorem unlinking_none (none : v.controller.linkPortOf tier1Id = none)
    (step : Unlinking v tier1Id v' r) :
    v'.controller.routerPorts = v.controller.routerPorts := by
  cases step with
  | unseen lost ports => exact ports
  | unlinked _ ports => exact ports
  | kept first | halved first | dangling first | single first | parted first =>
      exact nomatch none.symm.trans first

/-! ## What an attempt finds -/

/-- A tier-1 router without a link port has been linked by a new pair, `p` on it and `q` on the
tier-0 router. -/
structure NewLink (before : List HeldRouterPort) (tier1Id tier0Id : String)
    (p q : HeldRouterPort) : Prop extends NewPair before p q where
  link : p.port.kind = .link ∧ q.port.kind = .link
  routers : p.port.routerId = tier1Id ∧ q.port.routerId = tier0Id
  free : ∀ e ∈ before, e.port.kind = .link → e.port.routerId ≠ tier1Id

namespace NewLink

variable (new : NewLink before tier1Id tier0Id p q) {extra : HeldRouterPort → Prop}
  (left : Left before extra v.controller.routerPorts)
include new left

/-- Only a port of the pair is found. -/
theorem extra_of_found {e : HeldRouterPort} (found : v.controller.linkPortOf tier1Id = some e) :
    extra e ∧ e.port.routerId = tier1Id := by
  obtain ⟨he, router, kind⟩ := Controller.State.mem_of_linkPortOf found
  rcases (left e).mp he with old | extra
  · exact absurd router (new.free e old kind)
  · exact ⟨extra, router⟩

/-- Where a port of the pair is left on the router, a link port is found. -/
theorem exists_found {e : HeldRouterPort} (he : extra e) (kind : e.port.kind = .link)
    (router : e.port.routerId = tier1Id) :
    ∃ e', v.controller.linkPortOf tier1Id = some e' ∧ extra e' ∧ e'.port.routerId = tier1Id := by
  cases found : v.controller.linkPortOf tier1Id with
  | none =>
      have there := (left e).mpr (Or.inr he)
      exact absurd router (Controller.State.linkPortOf_eq_none_iff.mp found e there kind)
  | some e' => exact ⟨e', rfl, new.extra_of_found left found⟩

/-- Where no port of the pair is left on the router, no link port is found. -/
theorem none_found (elsewhere : ∀ e, extra e → e.port.routerId ≠ tier1Id) :
    v.controller.linkPortOf tier1Id = none := by
  cases found : v.controller.linkPortOf tier1Id with
  | none => rfl
  | some e =>
      obtain ⟨extra, router⟩ := new.extra_of_found left found
      exact absurd router (elsewhere e extra)

end NewLink

/-- What linking makes is a new pair. -/
theorem newLink (named : w.controller.PortsNamed)
    (free : w.controller.linkPortOf tier1Id = none) (tier0Id : String) :
    NewLink w.controller.routerPorts tier1Id tier0Id
      (heldTier1Port w.controller.made.routerPorts tier1Id)
      (heldTier0Port w.controller.made.routerPorts tier0Id) where
  fresh e he := ⟨named.fresh (by omega) e he, named.fresh (by omega) e he⟩
  other same := by
    have number := Controller.State.routerPortName_inj same
    omega
  names := rfl
  back := rfl
  link := ⟨rfl, rfl⟩
  routers := ⟨rfl, rfl⟩
  free := Controller.State.linkPortOf_eq_none_iff.mp free

/-! ## Attempt after attempt -/

/-- What is left after some attempts to unlink. -/
def attempted (tier1Id tier0Id : String) (v : World) : Nat → World
  | 0 => v
  | n + 1 => ((removeLink tier1Id tier0Id).runIn (attempted tier1Id tier0Id v n)).2

/-- There is a router port of this name. -/
def Present (id : String) (v : World) : Prop := ∃ e ∈ v.controller.routerPorts, e.id = id

instance (id : String) (v : World) : Decidable (Present id v) := by
  unfold Present
  infer_instance

/-- A port is taken away and another removal is lost. -/
def Strands (id : String) (v v' : World) : Prop :=
  Present id v ∧ ¬ Present id v' ∧ ∃ e, v.Lost v' .deleteRouterPort e

/-- One attempt after the others. -/
theorem unlinking_attempted (tier1Id tier0Id : String) (v : World) (n : Nat) :
    Unlinking (attempted tier1Id tier0Id v n) tier1Id (attempted tier1Id tier0Id v (n + 1))
      ((removeLink tier1Id tier0Id).runIn (attempted tier1Id tier0Id v n)).1 :=
  unlinking_removeLink _ tier1Id tier0Id

/-- A port that is left is present. -/
theorem present_of_extra {extra : HeldRouterPort → Prop} {e : HeldRouterPort}
    (left : Left before extra v.controller.routerPorts) (he : extra e) : Present e.id v :=
  ⟨e, (left e).mpr (Or.inr he), rfl⟩

/-- A port that is not left is not present. -/
theorem not_present {extra : HeldRouterPort → Prop} {id : String}
    (left : Left before extra v.controller.routerPorts) (old : ∀ e ∈ before, e.id ≠ id)
    (new : ∀ e, extra e → e.id ≠ id) : ¬ Present id v := fun ⟨e, he, same⟩ =>
  ((left e).mp he).elim (fun h => old e h same) fun h => new e h same

section Attempts

variable (new : NewLink before tier1Id tier0Id p q)
  (start : Left before (fun e => e = p ∨ e = q) v.controller.routerPorts)
include new

/-- On different routers the tier-1 port is found as long as it is there. -/
theorem found_first (apart : tier1Id ≠ tier0Id)
    (both : Left before (fun e => e = p ∨ e = q) v.controller.routerPorts) :
    v.controller.linkPortOf tier1Id = some p := by
  obtain ⟨e, found, rfl | rfl, router⟩ :=
    new.exists_found both (Or.inl rfl) new.link.1 new.routers.1
  · exact found
  · exact absurd (router.symm.trans new.routers.2) apart

include start in
/-- Before each attempt there is the whole pair, or the tier-0 port after an attempt that has
stranded it, or nothing of the pair. -/
theorem stranded_attempted (apart : tier1Id ≠ tier0Id) (n : Nat) :
    (Left before (fun e => e = p ∨ e = q)
          (attempted tier1Id tier0Id v n).controller.routerPorts ∧
        ∀ m < n, ¬ Strands p.id (attempted tier1Id tier0Id v m)
          (attempted tier1Id tier0Id v (m + 1))) ∨
      (Left before (· = q) (attempted tier1Id tier0Id v n).controller.routerPorts ∧
        ∃ m < n, Strands p.id (attempted tier1Id tier0Id v m)
          (attempted tier1Id tier0Id v (m + 1))) ∨
      (Left before (fun _ => False) (attempted tier1Id tier0Id v n).controller.routerPorts ∧
        ∀ m < n, ¬ Strands p.id (attempted tier1Id tier0Id v m)
          (attempted tier1Id tier0Id v (m + 1))) := by
  -- the cases: both ports are left, the second one is, or neither
  have old : ∀ e ∈ before, e.id ≠ p.id := fun e he => (new.fresh e he).1
  induction n with
  | zero => exact Or.inl ⟨start, fun m none => absurd none (Nat.not_lt_zero m)⟩
  | succ n ih =>
      have step := unlinking_attempted tier1Id tier0Id v n
      rcases ih with ⟨both, never⟩ | ⟨half, m, hm, strands⟩ | ⟨gone, never⟩
      · rcases new.unlinking_both both (found_first new apart both) step
          with ⟨-, same⟩ | ⟨-, lost, half⟩ | ⟨arrived, gone⟩
        · have both' : Left before (fun e => e = p ∨ e = q) _ := same ▸ both
          refine Or.inl ⟨both', Nat.forall_lt_succ_right.mpr ⟨never, fun strands => ?_⟩⟩
          exact strands.2.1 (present_of_extra both' (Or.inl rfl))
        · refine Or.inr (Or.inl ⟨half, n, Nat.lt_succ_self n, ?_, ?_, lost⟩)
          · exact present_of_extra both (Or.inl rfl)
          · exact not_present half old fun e here => here ▸ new.other.symm
        · refine Or.inr (Or.inr ⟨gone, Nat.forall_lt_succ_right.mpr ⟨never, fun strands => ?_⟩⟩)
          obtain ⟨-, -, e, lost⟩ := strands
          exact arrived e lost
      -- the port that is left is on the other router, and no attempt finds it any more
      · have none := new.none_found half fun e here =>
          here ▸ fun router => apart (router.symm.trans new.routers.2)
        refine Or.inr (Or.inl ⟨?_, m, Nat.lt_succ_of_lt hm, strands⟩)
        rw [unlinking_none none step]
        exact half
      · have none := new.none_found gone fun _ => False.elim
        refine Or.inr (Or.inr ⟨?_, Nat.forall_lt_succ_right.mpr ⟨never, fun strands => ?_⟩⟩)
        · rw [unlinking_none none step]
          exact gone
        · exact not_present gone old (fun _ => False.elim) strands.1

/-- A router that is linked to itself is found by either port, so an attempt succeeds only when
nothing of the pair is left. -/
theorem itself_unlinking (itself : tier1Id = tier0Id)
    (some_left : SomeLeft before p q v.controller.routerPorts)
    (step : Unlinking v tier1Id v' r) :
    SomeLeft before p q v'.controller.routerPorts ∧
      (r = .ok () → Left before (fun _ => False) v'.controller.routerPorts) := by
  -- both ports stand on the one router, so either may be found first
  have router : q.port.routerId = tier1Id := new.routers.2.trans itself.symm
  rcases some_left with both | half | half | gone
  · obtain ⟨e, found, rfl | rfl, -⟩ :=
      new.exists_found both (Or.inl rfl) new.link.1 new.routers.1
    · rcases new.unlinking_both both found step
        with ⟨⟨_, rfl⟩, same⟩ | ⟨⟨_, rfl⟩, -, half⟩ | ⟨-, gone⟩
      · exact ⟨Or.inl (same ▸ both), nofun⟩
      · exact ⟨Or.inr (Or.inr (Or.inl half)), nofun⟩
      · exact ⟨Or.inr (Or.inr (Or.inr gone)), fun _ => gone⟩
    · have swapped := fun x => (both x).trans (or_congr_right or_comm)
      rcases new.swap.unlinking_both swapped found step
        with ⟨⟨_, rfl⟩, same⟩ | ⟨⟨_, rfl⟩, -, half⟩ | ⟨-, gone⟩
      · exact ⟨Or.inl (same ▸ both), nofun⟩
      · exact ⟨Or.inr (Or.inl half), nofun⟩
      · exact ⟨Or.inr (Or.inr (Or.inr gone)), fun _ => gone⟩
  · obtain ⟨e, found, rfl, -⟩ := new.exists_found half rfl new.link.1 new.routers.1
    obtain ⟨⟨_, rfl⟩, same | gone⟩ := new.swap.unlinking_half half found step
    · exact ⟨Or.inr (Or.inl (same ▸ half)), nofun⟩
    · exact ⟨Or.inr (Or.inr (Or.inr gone)), nofun⟩
  · obtain ⟨e, found, rfl, -⟩ := new.exists_found half rfl new.link.2 router
    obtain ⟨⟨_, rfl⟩, same | gone⟩ := new.unlinking_half half found step
    · exact ⟨Or.inr (Or.inr (Or.inl (same ▸ half))), nofun⟩
    · exact ⟨Or.inr (Or.inr (Or.inr gone)), nofun⟩
  · have none := new.none_found gone fun _ => False.elim
    have gone : Left before (fun _ => False) v'.controller.routerPorts :=
      unlinking_none none step ▸ gone
    exact ⟨Or.inr (Or.inr (Or.inr gone)), fun _ => gone⟩

include start in
/-- However often a router is unlinked that is linked to itself, no other ports are touched. -/
theorem itself_attempted (itself : tier1Id = tier0Id) (n : Nat) :
    SomeLeft before p q (attempted tier1Id tier0Id v n).controller.routerPorts := by
  induction n with
  | zero => exact Or.inl start
  | succ n ih =>
      exact (itself_unlinking new itself ih (unlinking_attempted tier1Id tier0Id v n)).1

omit new in
/-- Where nothing of the pair is left, neither port is present. -/
theorem not_present_pair (pair : NewPair before p q)
    (gone : Left before (fun _ => False) v.controller.routerPorts) :
    ¬ Present p.id v ∧ ¬ Present q.id v :=
  ⟨not_present gone (fun e he => (pair.fresh e he).1) fun _ => False.elim,
    not_present gone (fun e he => (pair.fresh e he).2) fun _ => False.elim⟩

include start in
/-- Once an attempt succeeds, the pair is gone or the tier-0 port has been stranded. -/
theorem not_present_iff {n : Nat}
    (done : ((removeLink tier1Id tier0Id).runIn (attempted tier1Id tier0Id v n)).1 = .ok ()) :
    (¬ Present p.id (attempted tier1Id tier0Id v (n + 1)) ∧
        ¬ Present q.id (attempted tier1Id tier0Id v (n + 1))) ↔
      tier1Id = tier0Id ∨ ∀ m < n, ¬ Strands p.id (attempted tier1Id tier0Id v m)
        (attempted tier1Id tier0Id v (m + 1)) := by
  have step := unlinking_attempted tier1Id tier0Id v n
  by_cases itself : tier1Id = tier0Id
  · have gone := (itself_unlinking new itself (itself_attempted new start itself n) step).2 done
    exact iff_of_true (not_present_pair new.toNewPair gone) (Or.inl itself)
  · rcases stranded_attempted new start itself n
      with ⟨both, never⟩ | ⟨half, m, hm, strands⟩ | ⟨gone, never⟩
    · rcases new.unlinking_both both (found_first new itself both) step
        with ⟨⟨_, failed⟩, -⟩ | ⟨⟨_, failed⟩, -⟩ | ⟨-, gone⟩
      · exact nomatch failed.symm.trans done
      · exact nomatch failed.symm.trans done
      · exact iff_of_true (not_present_pair new.toNewPair gone) (Or.inr never)
    · have none := new.none_found half fun e here =>
        here ▸ fun router => itself (router.symm.trans new.routers.2)
      rw [← unlinking_none none step] at half
      refine iff_of_false (fun gone => gone.2 (present_of_extra half rfl)) ?_
      rintro (same | never)
      · exact itself same
      · exact never m hm strands
    · have none := new.none_found gone fun _ => False.elim
      rw [← unlinking_none none step] at gone
      exact iff_of_true (not_present_pair new.toNewPair gone) (Or.inr never)

end Attempts

/-- Unlinking is tried until an attempt succeeds. Then both ports of the new pair are gone unless an
earlier attempt has taken the tier-1 port away and lost the removal of the tier-0 port. -/
theorem pair_gone_iff_not_stranded (named : w.controller.PortsNamed)
    (free : w.controller.linkPortOf tier1Id = none) {members : List UInt32} {pair : LinkPair}
    (linked : ((addLink tier1Id tier0Id members).runIn w).1 = .ok pair)
    (start : v.controller = ((addLink tier1Id tier0Id members).runIn w).2.controller) {n : Nat}
    (done : ((removeLink tier1Id tier0Id).runIn (attempted tier1Id tier0Id v n)).1 = .ok ()) :
    (¬ Present pair.tier1Port.id (attempted tier1Id tier0Id v (n + 1)) ∧
        ¬ Present pair.tier0Port.id (attempted tier1Id tier0Id v (n + 1))) ↔
      tier1Id = tier0Id ∨ ∀ m < n, ¬ Strands pair.tier1Port.id
        (attempted tier1Id tier0Id v m) (attempted tier1Id tier0Id v (m + 1)) := by
  have linking := linking_addLink named tier1Id tier0Id members
  unfold Leaves at linking
  rw [linked] at linking
  cases linking with
  | linked ports =>
      refine not_present_iff (newLink named free tier0Id) (fun e => ?_) done
      rw [start, ports, List.mem_append, List.mem_cons, List.mem_singleton, or_comm (a := e = _)]

namespace Sample

def empty : World := World.empty false Clock.counting

/-- Two routers are linked, and of the removals that follow one is lost after `skip` others. -/
def linkedLosing (skip : Nat) : World :=
  { ((addLink "t1" "t0" [0]).runIn empty).2 with
    callFaults := Faults.none.set .deleteRouterPort (.window ⟨.request, "unavailable"⟩ skip
      (some 1)) }

end Sample

/-- If the first removal is lost, the next attempt takes both ports away. -/
theorem pair_gone_on_retry :
    ((removeLink "t1" "t0").runIn (Sample.linkedLosing 0)).1.isOk = false ∧
      ¬ Present "lrp-2" (attempted "t1" "t0" (Sample.linkedLosing 0) 2) ∧
      ¬ Present "lrp-1" (attempted "t1" "t0" (Sample.linkedLosing 0) 2) := by
  have linked : ((addLink "t1" "t0" [0]).runIn Sample.empty).1
      = .ok ⟨tier0PortAfter 0 "t0" none, tier1PortAfter 0 "t1"⟩ := rfl
  have done : ((removeLink "t1" "t0").runIn
      (attempted "t1" "t0" (Sample.linkedLosing 0) 1)).1 = .ok () := rfl
  have gone := pair_gone_iff_not_stranded (v := Sample.linkedLosing 0) (.of_nil rfl) rfl linked rfl
    done
  refine ⟨by decide +kernel, gone.mpr (Or.inr fun m first strands => ?_)⟩
  cases Nat.lt_one_iff.mp first
  exact strands.2.1 (by decide +kernel)

/-- If the second removal is lost, the next attempt succeeds and the tier-0 port stays. -/
theorem tier0Port_stays_on_retry :
    ((addLink "t1" "t0" [0]).runIn Sample.empty).1
        = .ok ⟨tier0PortAfter 0 "t0" none, tier1PortAfter 0 "t1"⟩ ∧
      ((removeLink "t1" "t0").runIn (Sample.linkedLosing 1)).1.isOk = false ∧
      ((removeLink "t1" "t0").runIn (attempted "t1" "t0" (Sample.linkedLosing 1) 1)).1 = .ok () ∧
      Present (tier0PortAfter 0 "t0" none).id (attempted "t1" "t0" (Sample.linkedLosing 1) 2) :=
  ⟨rfl, by decide +kernel, rfl, by decide +kernel⟩

end Overlay.Router
