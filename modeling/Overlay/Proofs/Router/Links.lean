import Overlay.Proofs.Router.Outcome

/-!
# Linked once, and unlinked

Link ports come and go in pairs that name each other (`Mutual`), as long as no call is lost. Linking
does not look whether the routers are joined already, so they are joined once if and only if nobody
links two routers that are. Unlinking takes the first link port of the tier-1 router, whichever
tier-0 router it leads to, with its peer; so the two routers are parted if and only if this port is
in every pair that joined them.

Main statement: `joinedOnce_iff_and_parted_iff`.
-/

namespace Overlay.Router

open Overlay.Handler
open Overlay.Controller (HeldRouterPort State)
open Overlay.Controller.State (routerPortName)

/-! ## Pairs of link ports -/

/-- Two link ports name each other, `p` on a tier-1 router and `q` on a tier-0 router. -/
structure Joins (s : State) (tier1Id tier0Id : String) (p q : HeldRouterPort) : Prop where
  mem : p ∈ s.routerPorts ∧ q ∈ s.routerPorts
  link : p.port.kind = .link ∧ q.port.kind = .link
  routers : p.port.routerId = tier1Id ∧ q.port.routerId = tier0Id
  peers : p.port.linkedPortId = some q.id ∧ q.port.linkedPortId = some p.id

instance (s : State) (tier1Id tier0Id : String) (p q : HeldRouterPort) :
    Decidable (Joins s tier1Id tier0Id p q) :=
  decidable_of_iff ((p ∈ s.routerPorts ∧ q ∈ s.routerPorts) ∧
      (p.port.kind = .link ∧ q.port.kind = .link) ∧
      (p.port.routerId = tier1Id ∧ q.port.routerId = tier0Id) ∧
      p.port.linkedPortId = some q.id ∧ q.port.linkedPortId = some p.id)
    ⟨fun ⟨mem, link, routers, peers⟩ => ⟨mem, link, routers, peers⟩,
      fun h => ⟨h.mem, h.link, h.routers, h.peers⟩⟩

/-- A pair of link ports joins the two routers. -/
def Joined (s : State) (tier1Id tier0Id : String) : Prop :=
  ∃ p q, Joins s tier1Id tier0Id p q

/-- No two routers are joined by more than one pair. -/
def JoinedOnce (s : State) : Prop :=
  ∀ tier1Id tier0Id p q p' q', Joins s tier1Id tier0Id p q → Joins s tier1Id tier0Id p' q' →
    (p' = p ∧ q' = q) ∨ (p' = q ∧ q' = p)

/-- Every router port is a link port and names a peer that names it. -/
structure Mutual (s : State) : Prop where
  named : s.PortsNamed
  link : ∀ p ∈ s.routerPorts, p.port.kind = .link
  paired : ∀ p ∈ s.routerPorts, ∃ q ∈ s.routerPorts, q.id ≠ p.id ∧
    p.port.linkedPortId = some q.id ∧ q.port.linkedPortId = some p.id

variable {s s' : State} {tier1Id tier0Id a b : String} {p q x y : HeldRouterPort}

/-- Ports that join two routers join them the other way round as well. -/
theorem Joins.swap (h : Joins s a b p q) : Joins s b a q p :=
  ⟨h.mem.symm, h.link.symm, h.routers.symm, h.peers.symm⟩

/-- Routers that are joined are joined in the other direction as well. -/
theorem Joined.swap (h : Joined s a b) : Joined s b a := by
  obtain ⟨p, q, joins⟩ := h
  exact ⟨q, p, joins.swap⟩

/-- Whether ports join routers depends only on the router ports. -/
theorem joins_congr (ports : s'.routerPorts = s.routerPorts) :
    Joins s' a b p q ↔ Joins s a b p q :=
  ⟨fun h => ⟨ports ▸ h.mem, h.link, h.routers, h.peers⟩,
    fun h => ⟨ports ▸ h.mem, h.link, h.routers, h.peers⟩⟩

/-- Whether routers are joined once depends only on the router ports. -/
theorem JoinedOnce.congr (once : JoinedOnce s) (ports : s'.routerPorts = s.routerPorts) :
    JoinedOnce s' := fun a b p q p' q' first second =>
  once a b p q p' q' ((joins_congr ports).mp first) ((joins_congr ports).mp second)

namespace Mutual

theorem congr (h : Mutual s) (named : s'.PortsNamed) (ports : s'.routerPorts = s.routerPorts) :
    Mutual s' :=
  ⟨named, ports ▸ h.link, ports ▸ h.paired⟩

/-- Router ports of one name are the same. -/
theorem eq_of_id (h : Mutual s) (hp : p ∈ s.routerPorts) (hq : q ∈ s.routerPorts)
    (same : p.id = q.id) : p = q :=
  h.named.keyed.eq_of_key hp hq same

/-- A port's peer names it in turn. -/
theorem peer (h : Mutual s) (hp : p ∈ s.routerPorts) (hq : q ∈ s.routerPorts)
    (names : p.port.linkedPortId = some q.id) : q.port.linkedPortId = some p.id := by
  obtain ⟨q', hq', -, names', back⟩ := h.paired p hp
  rw [h.eq_of_id hq hq' (Option.some.inj (names.symm.trans names'))]
  exact back

end Mutual

/-! ## A new pair -/

/-- A port of a new pair is in no old one. -/
theorem not_joins_new (named : s.PortsNamed) :
    ¬ Joins s a b (heldTier1Port s.made.routerPorts tier1Id) q := fun joins =>
  named.fresh (by omega) _ joins.mem.1 rfl

section Linked

variable (ports : s'.routerPorts = s.routerPorts ++
  [heldTier0Port s.made.routerPorts tier0Id, heldTier1Port s.made.routerPorts tier1Id])
include ports

/-- The ports after a new pair are those before it and the two new ones. -/
theorem mem_linked : p ∈ s'.routerPorts ↔ p ∈ s.routerPorts ∨
    p = heldTier0Port s.made.routerPorts tier0Id ∨
      p = heldTier1Port s.made.routerPorts tier1Id := by
  rw [ports, List.mem_append, List.mem_cons, List.mem_singleton]

/-- The new pair joins its two routers. -/
theorem joins_new : Joins s' tier1Id tier0Id (heldTier1Port s.made.routerPorts tier1Id)
    (heldTier0Port s.made.routerPorts tier0Id) where
  mem := ⟨(mem_linked ports).mpr (Or.inr (Or.inr rfl)),
    (mem_linked ports).mpr (Or.inr (Or.inl rfl))⟩
  link := ⟨rfl, rfl⟩
  routers := ⟨rfl, rfl⟩
  peers := ⟨rfl, rfl⟩

/-- Ports that joined routers join them after a new pair. -/
theorem Joins.linked (h : Joins s a b p q) : Joins s' a b p q :=
  ⟨h.mem.imp (fun hp => (mem_linked ports).mpr (Or.inl hp))
    fun hq => (mem_linked ports).mpr (Or.inl hq), h.link, h.routers, h.peers⟩

/-- Ports still name each other after a new pair. -/
theorem Mutual.linked (h : Mutual s) (named : s'.PortsNamed) : Mutual s' where
  named := named
  link p hp := by
    rcases (mem_linked ports).mp hp with old | rfl | rfl
    · exact h.link p old
    · rfl
    · rfl
  paired p hp := by
    have joins := joins_new ports
    have other : (heldTier0Port s.made.routerPorts tier0Id).id
        ≠ (heldTier1Port s.made.routerPorts tier1Id).id := by
      intro same
      have number := Controller.State.routerPortName_inj same
      omega
    rcases (mem_linked ports).mp hp with old | rfl | rfl
    · obtain ⟨q, hq, rest⟩ := h.paired p old
      exact ⟨q, (mem_linked ports).mpr (Or.inl hq), rest⟩
    · exact ⟨_, joins.mem.1, other.symm, joins.peers.2, joins.peers.1⟩
    · exact ⟨_, joins.mem.2, other, joins.peers⟩

/-- The ports of a new pair name each other, so no old port is joined anew. -/
theorem joins_linked (h : Mutual s) (named : s'.PortsNamed) (joins : Joins s' a b p q) :
    Joins s a b p q ∨
      (p = heldTier1Port s.made.routerPorts tier1Id ∧
        q = heldTier0Port s.made.routerPorts tier0Id) ∨
      (p = heldTier0Port s.made.routerPorts tier0Id ∧
        q = heldTier1Port s.made.routerPorts tier1Id) := by
  have after := h.linked ports named
  have new := joins_new ports
  rcases (mem_linked ports).mp joins.mem.1 with old | rfl | rfl
  · obtain ⟨r, hr, -, names, -⟩ := h.paired p old
    have same := after.eq_of_id joins.mem.2 ((mem_linked ports).mpr (Or.inl hr))
      (Option.some.inj (joins.peers.1.symm.trans names))
    exact Or.inl ⟨⟨old, same ▸ hr⟩, joins.link, joins.routers, joins.peers⟩
  · have same := after.eq_of_id joins.mem.2 new.mem.1
      (Option.some.inj (joins.peers.1.symm.trans new.peers.2))
    exact Or.inr (Or.inr ⟨rfl, same⟩)
  · have same := after.eq_of_id joins.mem.2 new.mem.2
      (Option.some.inj (joins.peers.1.symm.trans new.peers.1))
    exact Or.inr (Or.inl ⟨rfl, same⟩)

omit ports in
/-- Two routers joined by an old pair and a new one are those that were linked. -/
theorem joined_of_new (joins : Joins s' a b p q)
    (new : (p = heldTier1Port s.made.routerPorts tier1Id ∧
        q = heldTier0Port s.made.routerPorts tier0Id) ∨
      (p = heldTier0Port s.made.routerPorts tier0Id ∧
        q = heldTier1Port s.made.routerPorts tier1Id))
    (old : Joined s a b) : Joined s tier1Id tier0Id := by
  obtain ⟨rfl, rfl⟩ := joins.routers
  rcases new with ⟨rfl, rfl⟩ | ⟨rfl, rfl⟩
  · exact old
  · exact old.swap

/-- One more pair is right if and only if the routers were not joined. -/
theorem joinedOnce_linked (h : Mutual s) (named : s'.PortsNamed) :
    JoinedOnce s' ↔ JoinedOnce s ∧ ¬ Joined s tier1Id tier0Id := by
  constructor
  · intro once
    constructor
    · intro a b p q p' q' first second
      exact once a b p q p' q' (first.linked ports) (second.linked ports)
    · rintro ⟨p, q, old⟩
      rcases once _ _ _ _ _ _ (old.linked ports) (joins_new ports) with ⟨rfl, -⟩ | ⟨rfl, -⟩
      · exact not_joins_new h.named old
      · exact not_joins_new h.named old.swap
  · rintro ⟨once, apart⟩ a b p q p' q' first second
    rcases joins_linked ports h named first with old | new
    · rcases joins_linked ports h named second with old' | new'
      · exact once a b p q p' q' old old'
      · exact absurd (joined_of_new second new' ⟨p, q, old⟩) apart
    · rcases joins_linked ports h named second with old' | new'
      · exact absurd (joined_of_new first new ⟨p', q', old'⟩) apart
      · rcases new with ⟨rfl, rfl⟩ | ⟨rfl, rfl⟩
        · exact new'
        · exact new'.symm

end Linked

/-! ## A pair taken away -/

section Parted

variable (ports : s'.routerPorts = Table.remove HeldRouterPort.id q.id
  (Table.remove HeldRouterPort.id p.id s.routerPorts))
include ports

/-- The ports after a pair was taken away are the others. -/
theorem mem_parted : x ∈ s'.routerPorts ↔ x ∈ s.routerPorts ∧ x.id ≠ p.id ∧ x.id ≠ q.id := by
  rw [ports, Table.mem_remove, Table.mem_remove, and_assoc]

variable (h : Mutual s) (hp : p ∈ s.routerPorts) (hq : q ∈ s.routerPorts)
  (names : p.port.linkedPortId = some q.id)
include h hp hq names

/-- The peer of a port of another pair is of another pair. -/
theorem peer_parted (hx : x ∈ s'.routerPorts) (hy : y ∈ s.routerPorts)
    (peers : y.port.linkedPortId = some x.id) : y ∈ s'.routerPorts := by
  obtain ⟨-, not_p, not_q⟩ := (mem_parted ports).mp hx
  refine (mem_parted ports).mpr ⟨hy, fun same => ?_, fun same => ?_⟩
  · rw [h.eq_of_id hy hp same, names] at peers
    exact not_q (Option.some.inj peers).symm
  · rw [h.eq_of_id hy hq same, h.peer hp hq names] at peers
    exact not_p (Option.some.inj peers).symm

/-- Ports still name each other after a pair was taken away. -/
theorem Mutual.parted (named : s'.PortsNamed) : Mutual s' where
  named := named
  link x hx := h.link x ((mem_parted ports).mp hx).1
  paired x hx := by
    obtain ⟨y, hy, other, peers, back⟩ := h.paired x ((mem_parted ports).mp hx).1
    exact ⟨y, peer_parted ports h hp hq names hx hy back, other, peers, back⟩

/-- The other pairs stay. -/
theorem joins_parted : Joins s' a b x y ↔ Joins s a b x y ∧ x ≠ p ∧ x ≠ q := by
  constructor
  · intro joins
    obtain ⟨hx, not_p, not_q⟩ := (mem_parted ports).mp joins.mem.1
    have hy := ((mem_parted ports).mp joins.mem.2).1
    exact ⟨⟨⟨hx, hy⟩, joins.link, joins.routers, joins.peers⟩, fun same => not_p (same ▸ rfl),
      fun same => not_q (same ▸ rfl)⟩
  · rintro ⟨joins, not_p, not_q⟩
    have hx : x ∈ s'.routerPorts := (mem_parted ports).mpr ⟨joins.mem.1,
      fun same => not_p (h.eq_of_id joins.mem.1 hp same),
      fun same => not_q (h.eq_of_id joins.mem.1 hq same)⟩
    have hy := peer_parted ports h hp hq names hx joins.mem.2 joins.peers.2
    exact ⟨⟨hx, hy⟩, joins.link, joins.routers, joins.peers⟩

/-- Two routers are parted if the port that was found is in every pair that joined them. -/
theorem not_joined_parted : ¬ Joined s' a b ↔ ∀ x y, Joins s a b x y → p = x ∨ p = y := by
  have second : ∀ {x y}, Joins s a b x y → (x = q ↔ p = y) := by
    intro x y joins
    constructor
    · rintro rfl
      exact h.eq_of_id hp joins.mem.2
        (Option.some.inj ((h.peer hp hq names).symm.trans joins.peers.1))
    · rintro rfl
      exact h.eq_of_id joins.mem.1 hq (Option.some.inj (joins.peers.2.symm.trans names))
  constructor
  · intro apart x y joins
    by_cases here : p = x ∨ p = y
    · exact here
    · obtain ⟨not_x, not_y⟩ := not_or.mp here
      exact absurd ⟨x, y, (joins_parted ports h hp hq names).mpr
        ⟨joins, Ne.symm not_x, fun same => not_y ((second joins).mp same)⟩⟩ apart
  · rintro found ⟨x, y, joins⟩
    obtain ⟨joins, not_p, not_q⟩ := (joins_parted ports h hp hq names).mp joins
    rcases found x y joins with rfl | here
    · exact not_p rfl
    · exact not_q ((second joins).mpr here)

end Parted

/-! ## Runs -/

/-- No call is lost. -/
def Undisturbed (w : World) : Prop := ∀ op n, (w.callFaults.pattern op).failing n = none

/-- No call is lost later where none is lost. -/
theorem Undisturbed.follows {w w' : World} (h : Undisturbed w) (f : w.Follows w') :
    Undisturbed w' := fun op n => by
  rw [f.failing]
  exact h op n

/-- Where no call is to be lost, none has been. -/
theorem Undisturbed.not_lost {w w' : World} (h : Undisturbed w) (op : Controller.Operation)
    (e : Controller.Error) : ¬ w.Lost w' op e := fun ⟨n, _, _, fails⟩ =>
  Option.some_ne_none e (fails.symm.trans (h op n))

/-- Two routers are to be linked, or a tier-1 router is to be unlinked from a tier-0 router. -/
inductive Order where
  | link (tier1Id tier0Id : String)
  | unlink (tier1Id tier0Id : String)
  deriving DecidableEq, Repr

/-- What an order leaves. -/
def Order.after : Order → World → World
  | .link tier1Id tier0Id, w => ((Router.link tier1Id tier0Id).runIn w).2
  | .unlink tier1Id tier0Id, w => ((removeLink tier1Id tier0Id).runIn w).2

/-- What orders leave, one after the other. -/
def carryOut (orders : List Order) (w : World) : World := orders.foldl (fun w o => o.after w) w

/-- An order keeps what the surroundings keep. -/
theorem Order.follows (o : Order) (w : World) : w.Follows (o.after w) := by
  cases o with
  | link tier1Id tier0Id => exact follows_runIn _ w
  | unlink tier1Id tier0Id => exact follows_runIn _ w

/-- Orders keep what the surroundings keep. -/
theorem follows_carryOut (orders : List Order) (w : World) : w.Follows (carryOut orders w) := by
  induction orders generalizing w with
  | nil => exact .refl w
  | cons o rest ih => exact (o.follows w).trans (ih _)

section Runs

variable {w : World} (calls : Undisturbed w) (h : Mutual w.controller)
include calls h

/-- Linking either makes a new pair or leaves the router ports as they are. -/
theorem link_undisturbed (tier1Id tier0Id : String) :
    let after := (link tier1Id tier0Id).runIn w
    ((∃ e, after.1 = .error e) ∧
      after.2.controller.routerPorts = w.controller.routerPorts) ∨
    ((∃ pair, after.1 = .ok pair) ∧
      after.2.controller.routerPorts = w.controller.routerPorts ++
        [heldTier0Port w.controller.made.routerPorts tier0Id,
          heldTier1Port w.controller.made.routerPorts tier1Id]) := by
  have linking := linking_link h.named tier1Id tier0Id
  unfold Leaves at linking
  generalize (link tier1Id tier0Id).runIn w = after at linking ⊢
  obtain ⟨result, w'⟩ := after
  cases linking with
  | unchanged ports => exact Or.inl ⟨⟨_, rfl⟩, ports⟩
  | orphaned lost ports => exact absurd lost (calls.not_lost _ _)
  | linked ports => exact Or.inr ⟨⟨_, rfl⟩, ports⟩

/-- Unlinking finds nothing, or takes away a port and its peer. -/
theorem removeLink_undisturbed (tier1Id tier0Id : String) :
    let after := (removeLink tier1Id tier0Id).runIn w
    after.1 = .ok () ∧
    ((w.controller.linkPortOf tier1Id = none ∧
        after.2.controller.routerPorts = w.controller.routerPorts) ∨
      ∃ p q, w.controller.linkPortOf tier1Id = some p ∧ p ∈ w.controller.routerPorts ∧
        q ∈ w.controller.routerPorts ∧ p.port.linkedPortId = some q.id ∧
        after.2.controller.routerPorts = Table.remove HeldRouterPort.id q.id
          (Table.remove HeldRouterPort.id p.id w.controller.routerPorts)) := by
  have unlinking := unlinking_removeLink w tier1Id tier0Id
  unfold Leaves at unlinking
  generalize (removeLink tier1Id tier0Id).runIn w = after at unlinking ⊢
  obtain ⟨result, w'⟩ := after
  have mem {p : HeldRouterPort} (first : w.controller.linkPortOf tier1Id = some p) :
      p ∈ w.controller.routerPorts := (Controller.State.mem_of_linkPortOf first).1
  cases unlinking with
  | unseen lost ports => exact absurd lost (calls.not_lost _ _)
  | unlinked none ports => exact ⟨rfl, Or.inl ⟨none, ports⟩⟩
  | kept first lost ports => exact absurd lost (calls.not_lost _ _)
  | halved first names lost ports => exact absurd lost (calls.not_lost _ _)
  | dangling first names gone ports =>
      obtain ⟨q, hq, other, peer, -⟩ := h.paired _ (mem first)
      exact absurd (Option.some.inj (peer.symm.trans names)) (gone q hq other)
  | single first names ports =>
      obtain ⟨q, hq, other, peer, -⟩ := h.paired _ (mem first)
      exact nomatch peer.symm.trans names
  | parted first names there _ _ ports =>
      exact ⟨rfl, Or.inr ⟨_, _, first, mem first, there, names, ports⟩⟩

/-- After an order the ports name each other still. -/
theorem mutual_after (o : Order) : Mutual (o.after w).controller := by
  have named : (o.after w).controller.PortsNamed := by
    cases o with
    | link tier1Id tier0Id => exact World.portsNamed_run _ h.named
    | unlink tier1Id tier0Id => exact World.portsNamed_run _ h.named
  cases o with
  | link tier1Id tier0Id =>
      rcases link_undisturbed calls h tier1Id tier0Id with ⟨-, same⟩ | ⟨-, ports⟩
      · exact h.congr named same
      · exact h.linked ports named
  | unlink tier1Id tier0Id =>
      rcases (removeLink_undisturbed calls h tier1Id tier0Id).2
        with ⟨-, same⟩ | ⟨p, q, -, hp, hq, names, ports⟩
      · exact h.congr named same
      · exact h.parted ports hp hq names named

/-- Routers that are not joined can be linked, and any routers can be unlinked. -/
theorem joinedOnce_after {o : Order} (once : JoinedOnce w.controller)
    (apart : ∀ tier1Id tier0Id pair, o = .link tier1Id tier0Id →
      ((link tier1Id tier0Id).runIn w).1 = .ok pair → ¬ Joined w.controller tier1Id tier0Id) :
    JoinedOnce (o.after w).controller := by
  have after := mutual_after calls h o
  cases o with
  | link tier1Id tier0Id =>
      rcases link_undisturbed calls h tier1Id tier0Id with ⟨-, same⟩ | ⟨⟨pair, ok⟩, ports⟩
      · exact once.congr same
      · exact (joinedOnce_linked ports h after.named).mpr
          ⟨once, apart tier1Id tier0Id pair rfl ok⟩
  | unlink tier1Id tier0Id =>
      rcases (removeLink_undisturbed calls h tier1Id tier0Id).2
        with ⟨-, same⟩ | ⟨p, q, -, hp, hq, names, ports⟩
      · exact once.congr same
      · intro a b x y x' y' first second
        exact once a b x y x' y' ((joins_parted ports h hp hq names).mp first).1
          ((joins_parted ports h hp hq names).mp second).1

/-- A link between routers that are joined already makes a second pair. -/
theorem not_joined_of_joinedOnce {tier1Id tier0Id : String} {pair : LinkPair}
    (ok : ((link tier1Id tier0Id).runIn w).1 = .ok pair)
    (once : JoinedOnce ((link tier1Id tier0Id).runIn w).2.controller) :
    ¬ Joined w.controller tier1Id tier0Id := by
  rcases link_undisturbed calls h tier1Id tier0Id with ⟨⟨e, failed⟩, -⟩ | ⟨-, ports⟩
  · exact nomatch failed.symm.trans ok
  · exact ((joinedOnce_linked ports h (World.portsNamed_run _ h.named)).mp once).2

/-- The two routers are parted if the port that is found is in every pair that joined them. -/
theorem parted_iff (tier1Id tier0Id : String) :
    ((removeLink tier1Id tier0Id).runIn w).1 = .ok () ∧
      (¬ Joined ((removeLink tier1Id tier0Id).runIn w).2.controller tier1Id tier0Id ↔
        ∀ x y, Joins w.controller tier1Id tier0Id x y →
          ∃ p, w.controller.linkPortOf tier1Id = some p ∧ (p = x ∨ p = y)) := by
  obtain ⟨ok, found⟩ := removeLink_undisturbed calls h tier1Id tier0Id
  refine ⟨ok, ?_⟩
  rcases found with ⟨none, same⟩ | ⟨p, q, first, hp, hq, names, ports⟩
  · have free : ∀ x y, ¬ Joins w.controller tier1Id tier0Id x y := fun x y joins =>
      Controller.State.linkPortOf_eq_none_iff.mp none x joins.mem.1 joins.link.1 joins.routers.1
    exact iff_of_true (fun ⟨x, y, joins⟩ => free x y ((joins_congr same).mp joins))
      fun x y joins => absurd joins (free x y)
  · rw [not_joined_parted ports h hp hq names]
    refine forall₃_congr fun x y _ => ?_
    rw [first]
    simp

end Runs

variable {w : World}

/-- After all orders the ports name each other still. -/
theorem mutual_carryOut (calls : Undisturbed w) (h : Mutual w.controller) (orders : List Order) :
    Mutual (carryOut orders w).controller := by
  induction orders generalizing w with
  | nil => exact h
  | cons o rest ih => exact ih (calls.follows (o.follows w)) (mutual_after calls h o)

/-- Routers stay joined once if they are never linked while they are joined. -/
theorem joinedOnce_carryOut (calls : Undisturbed w) (h : Mutual w.controller)
    (once : JoinedOnce w.controller) {orders : List Order}
    (apart : ∀ before tier1Id tier0Id pair, before ++ [.link tier1Id tier0Id] <+: orders →
      ((link tier1Id tier0Id).runIn (carryOut before w)).1 = .ok pair →
      ¬ Joined (carryOut before w).controller tier1Id tier0Id) :
    JoinedOnce (carryOut orders w).controller := by
  induction orders generalizing w with
  | nil => exact once
  | cons o rest ih =>
      refine ih (calls.follows (o.follows w)) (mutual_after calls h o) ?_ ?_
      · refine joinedOnce_after calls h once fun tier1Id tier0Id pair here ok => ?_
        exact apart [] tier1Id tier0Id pair (here ▸ ⟨rest, rfl⟩) ok
      · intro before tier1Id tier0Id pair later ok
        exact apart (o :: before) tier1Id tier0Id pair
          (List.cons_prefix_cons.mpr ⟨rfl, later⟩) ok

/-- Routers are joined once as long as nobody links two that are joined, and unlinking parts them if
the port that it finds first is in every pair that joined them. -/
theorem joinedOnce_iff_and_parted_iff (calls : Undisturbed w)
    (start : w.controller.routerPorts = []) (orders : List Order) :
    ((∀ before, before <+: orders → JoinedOnce (carryOut before w).controller) ↔
      ∀ before tier1Id tier0Id pair, before ++ [.link tier1Id tier0Id] <+: orders →
        ((link tier1Id tier0Id).runIn (carryOut before w)).1 = .ok pair →
        ¬ Joined (carryOut before w).controller tier1Id tier0Id) ∧
    ∀ tier1Id tier0Id,
      ((removeLink tier1Id tier0Id).runIn (carryOut orders w)).1 = .ok () ∧
        (¬ Joined ((removeLink tier1Id tier0Id).runIn (carryOut orders w)).2.controller
            tier1Id tier0Id ↔
          ∀ x y, Joins (carryOut orders w).controller tier1Id tier0Id x y →
            ∃ p, (carryOut orders w).controller.linkPortOf tier1Id = some p ∧
              (p = x ∨ p = y)) := by
  have empty : ∀ p, p ∉ w.controller.routerPorts := fun p hp => nomatch start ▸ hp
  have h : Mutual w.controller :=
    ⟨.of_nil start, fun p hp => absurd hp (empty p), fun p hp => absurd hp (empty p)⟩
  have once : JoinedOnce w.controller := fun _ _ p _ _ _ joins => absurd joins.mem.1 (empty p)
  have after := fun os : List Order => calls.follows (follows_carryOut os w)
  constructor
  · constructor
    · intro once before tier1Id tier0Id pair here ok
      have next := once _ here
      rw [carryOut, List.foldl_append] at next
      exact not_joined_of_joinedOnce (after before) (mutual_carryOut calls h before) ok next
    · intro apart before here
      refine joinedOnce_carryOut calls h once fun earlier tier1Id tier0Id pair there ok => ?_
      exact apart earlier tier1Id tier0Id pair (there.trans here) ok
  · exact parted_iff (after orders) (mutual_carryOut calls h orders)

namespace Sample

/-- Two tier-0 routers that can take links. -/
def provided : World :=
  { World.empty false Clock.counting with
    controller := ((State.empty.addRouter ⟨"t0-a", "provider", some "ec-1"⟩).addRouter
      ⟨"t0-b", "provider", some "ec-1"⟩).addEdgeCluster ⟨"ec-1", [⟨0⟩]⟩ }

end Sample

/-- A router that is linked for the first time is joined once, and unlinking it parts it. -/
theorem joinedOnce_and_parted_first_link :
    (∀ before, before <+: [.link "t1" "t0-a"] →
      JoinedOnce (carryOut before Sample.provided).controller) ∧
    ¬ Joined ((removeLink "t1" "t0-a").runIn
      (carryOut [.link "t1" "t0-a"] Sample.provided)).2.controller "t1" "t0-a" := by
  obtain ⟨once, parted⟩ := joinedOnce_iff_and_parted_iff (w := Sample.provided)
    (fun _ _ => rfl) rfl [.link "t1" "t0-a"]
  constructor
  · refine once.mpr fun before tier1Id tier0Id pair here _ => ?_
    have short := here.length_le
    rw [List.length_append, List.length_singleton, List.length_singleton] at short
    have none : before = [] := List.eq_nil_of_length_eq_zero (by omega)
    rw [none]
    rintro ⟨p, q, joins⟩
    exact nomatch joins.mem.1
  · refine (parted "t1" "t0-a").2.mpr fun x y joins => ?_
    have found : ∀ x ∈ (carryOut [.link "t1" "t0-a"] Sample.provided).controller.routerPorts,
        x.port.routerId = "t1" → (carryOut [.link "t1" "t0-a"]
          Sample.provided).controller.linkPortOf "t1" = some x := by decide +kernel
    exact ⟨x, found x joins.mem.1 joins.routers.1, Or.inl rfl⟩

/-- Linking the same routers again makes a second pair, and unlinking a router that is linked to two
others takes the older pair, whichever of the two is named. -/
theorem linked_twice_and_not_parted :
    (∃ pair, ((link "t1" "t0-a").runIn (carryOut [.link "t1" "t0-a"] Sample.provided)).1
      = .ok pair) ∧
    ¬ JoinedOnce (carryOut [.link "t1" "t0-a", .link "t1" "t0-a"] Sample.provided).controller ∧
    ((removeLink "t1" "t0-b").runIn
      (carryOut [.link "t1" "t0-a", .link "t1" "t0-b"] Sample.provided)).1 = .ok () ∧
    Joined ((removeLink "t1" "t0-b").runIn
      (carryOut [.link "t1" "t0-a", .link "t1" "t0-b"] Sample.provided)).2.controller
      "t1" "t0-b" := by
  refine ⟨⟨⟨tier0PortAfter 2 "t0-a" none, tier1PortAfter 2 "t1"⟩, rfl⟩, ?_,
    rfl, heldTier1Port 2 "t1", heldTier0Port 2 "t0-b", by decide +kernel⟩
  intro once
  have same := once "t1" "t0-a" (heldTier1Port 0 "t1") (heldTier0Port 0 "t0-a")
    (heldTier1Port 2 "t1") (heldTier0Port 2 "t0-a") (by decide +kernel) (by decide +kernel)
  revert same
  decide +kernel

end Overlay.Router
