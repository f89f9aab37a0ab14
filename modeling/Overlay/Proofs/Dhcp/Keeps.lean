import Overlay.Dhcp.Event
import Overlay.Proofs.Dhcp.Requests
import Overlay.Proofs.Keeps

/-!
# What every event keeps

There are two places where a server is made and one where it is taken down. What these keep, and
every request that is about no server, is kept by every event, whatever fails.

Main statement: `Upheld.event`.
-/

namespace Overlay.Dhcp

open Overlay.Handler

/-- The relation holds over the making and the taking down of a server, and over every request that
is about none. -/
structure Upheld (R : World → World → Prop) : Prop where
  request : ∀ r : Request, r.Plain → r.Silent → ∀ w : World, R w (w.answer r).2
  create : ∀ settings p, (createServiceFor settings p).Keeps R
  ensure : ∀ settings s p, (ensureService settings s p).Keeps R
  teardown : ∀ networkId owner, (teardown networkId owner).Keeps R

namespace Upheld

variable {R : World → World → Prop} [IsPreorder World R] (upheld : Upheld R) (settings : Settings)
include upheld

/-- Work on bindings keeps what single requests keep. -/
theorem bindings {α : Type} {h : Handler α} (within : h.Within Request.OfBindings) : h.Keeps R :=
  .of_within within fun r h => upheld.request r h.2.1 h.2.2

/-- A new network gets its proxy, and what single requests keep is kept. -/
theorem networkCreated (n : Network) : (networkCreated settings n).Keeps R := by
  refine .ite (fun _ => .pure _) fun _ => ?_
  refine .bind (upheld.bindings (.setting _)) fun proxyId => .locked ?_
  have asked : ∀ {α : Type} {h : Handler α}, h.Within (fun r => r.Plain ∧ r.Silent) → h.Keeps R :=
    fun within => .of_within within fun r h => upheld.request r h.1 h.2
  refine .bind (asked (.execute ⟨trivial, trivial⟩)) fun switch => ?_
  cases switch with
  | none => exact .throw _
  | some switchId =>
      exact .bind (asked (.call ⟨trivial, trivial⟩)) fun port =>
        .bind (asked (.report ⟨trivial, trivial⟩)) fun _ => .pure _

omit upheld [IsPreorder World R] in
/-- Under its locks a port's handler keeps what it keeps. -/
theorem lockedPort {α : Type} {p : Port} {body : Handler α} (keeps : body.Keeps R) :
    (lockedPort p body).Keeps R := .locked (.locked keeps)

/-- A port that comes keeps what making a server keeps. -/
theorem portCreated (p : Port) : (portCreated settings p).Keeps R := by
  refine .ite (fun _ => lockedPort ?_) fun _ => .pure ()
  cases p.role with
  | dhcp => exact upheld.create settings p
  | compute => exact upheld.bindings (within_converge settings p [])
  | other => exact .pure ()

/-- A port that changes keeps what making, moving and taking down a server keep. -/
theorem portUpdated (old new : Port) : (portUpdated settings old new).Keeps R := by
  refine .ite (fun _ => .pure ()) fun _ => lockedPort ?_
  have follow : Keeps R (do
      let current ← execute (.bindingsOf new.id)
      converge settings new current
      if new.role = .dhcp then
        if old.role = .dhcp then moveServer old new else createServiceFor settings new) := by
    refine .bind (upheld.bindings (.execute ⟨trivial, trivial, trivial⟩)) fun current => ?_
    refine .bind (upheld.bindings (within_converge settings new current)) fun _ => ?_
    refine .ite (fun _ => ?_) fun _ => .pure ()
    exact .ite (fun _ => upheld.bindings (within_moveServer old new)) fun _ =>
      upheld.create settings new
  refine .bind (upheld.bindings (.query ⟨trivial, trivial, trivial⟩)) fun found => ?_
  cases found with
  | none => exact .pure ()
  | some _ =>
      refine .ite (fun _ => ?_) fun _ => follow
      exact .bind (upheld.teardown old.networkId (some old.id)) fun _ => follow

/-- A port that goes keeps what taking down a server keeps. -/
theorem portDeleted (p : Port) : (portDeleted p).Keeps R := by
  refine lockedPort (.bind (upheld.bindings (.execute ⟨trivial, trivial, trivial⟩)) fun rows => ?_)
  have released : (rows.forM (releaseAddress p.id)).Within Request.OfBindings :=
    .forM (fun b => (within_releaseAddress p.id b).bindings) rows
  refine .bind (upheld.bindings released) fun _ => ?_
  exact .ite (fun _ => upheld.teardown p.networkId (some p.id)) fun _ => .pure ()

/-! ## Rebuilding everything -/

/-- One port of a pass keeps what making a server keeps. -/
theorem passPort (pass : Pass) (p : Port) : (passPort settings pass p).Keeps R := by
  rw [Dhcp.passPort]
  split
  · rw [passDhcpPort.eq_def]
    split
    · exact .pure _
    · refine .bind (upheld.bindings (within_subnet pass _)) fun found => ?_
      refine .bind (upheld.bindings (within_switchFor _ _)) fun switch => ?_
      split
      · refine .bind (.attempt (upheld.ensure settings _ p)) fun result => ?_
        split <;> exact .pure _
      · exact .pure _
  · refine .foldlM (fun pass f => ?_) _ _
    refine .bind (upheld.bindings (within_subnet pass _)) fun found => ?_
    refine .bind (upheld.bindings (within_switchFor _ _)) fun switch => ?_
    cases switch <;> exact .pure _
  · exact .pure _

/-- Binding the addresses of a group keeps what single requests keep. -/
theorem bindGroup (servers : List SwitchServer) (report : ResyncReport) (group : SwitchGroup) :
    (bindGroup settings servers report group).Keeps R := by
  rw [Dhcp.bindGroup]
  split
  · exact .pure _
  · refine .locked (.foldlM (fun report entry => ?_) _ _)
    exact .bind (.attempt (upheld.bindings (within_bindAddress settings _ _ _))) fun _ => .pure _

/-- A resync keeps what making servers keeps. -/
theorem resync (profileId : Option String) : (resync settings profileId).Keeps R := by
  refine .bind (upheld.bindings (.setting _)) fun _ => ?_
  refine .bind (upheld.bindings (.query ⟨trivial, trivial, trivial⟩)) fun ports => ?_
  refine .bind (.foldlM (upheld.passPort _) _ _) fun pass => ?_
  refine .bind (.foldlM (upheld.bindGroup settings pass.servers) _ _) fun report => ?_
  exact .bind (upheld.bindings (.report ⟨trivial, trivial, trivial⟩)) fun _ => .pure _

/-- Whatever the event is and whatever fails. -/
theorem event (e : Event) : (e.handler settings).Keeps R := by
  cases e with
  | networkCreated n => exact upheld.networkCreated settings n
  | networkDeleted networkId => exact .locked (upheld.teardown networkId none)
  | subnetCreated s =>
      exact .ite (fun _ => .locked (upheld.bindings (within_ensureOnlyDhcpSubnet settings s)))
        fun _ => .pure _
  | subnetUpdated old new =>
      refine .locked ?_
      split
      · exact upheld.bindings (within_ensureOnlyDhcpSubnet settings new)
      · exact upheld.teardown new.networkId none
      · exact .pure _
  | subnetDeleted s =>
      exact .ite (fun _ => .locked (upheld.teardown s.networkId none)) fun _ => .pure _
  | portCreated p => exact upheld.portCreated settings p
  | portUpdated old new => exact upheld.portUpdated settings old new
  | portDeleted p => exact upheld.portDeleted p
  | resync profileId => exact upheld.resync settings profileId

end Upheld

end Overlay.Dhcp
