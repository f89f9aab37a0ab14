import Overlay.Dhcp.Event
import Overlay.Proofs.Requests

/-!
# What is asked for under the locks of an event

Nothing that is done about services and bindings takes a lock, changes a mapping of networks or
ports, or asks the controller about anything but DHCP servers, bindings and attachments. The one
handler that makes something else, `networkCreated`, is not among those here.
-/

namespace Overlay

/-- The call is about DHCP servers, bindings or the attachment of a port. -/
def Controller.Call.OfDhcp : Controller.Call → Prop
  | .setAttachment .. => True
  | .createServer .. => True
  | .setServerIp .. => True
  | .deleteServer .. => True
  | .createBinding .. => True
  | .updateBinding .. => True
  | .deleteBinding .. => True
  | _ => False

/-- The statement changes no mapping. -/
def Store.Statement.OfDhcp : Store.Statement → Prop
  | .putNetwork _ => False
  | .putPort _ => False
  | _ => True

/-- The request is one that is made about services and bindings. -/
def Request.OfDhcp : Request → Prop
  | .call c => c.OfDhcp
  | .execute st => st.OfDhcp
  | .query _ => True
  | .report _ => True
  | .now => True
  | .acquire _ => False
  | .release _ => False
  | .validated _ => False
  | .remember _ => False

/-- Requests about services and bindings are about no lock. -/
theorem Request.OfDhcp.free {r : Request} (h : r.OfDhcp) : r.Free := by
  cases r <;> trivial

/-- The request makes no server, attaches none and changes no mapping of ports. Nor does it look up a
network, as is done only to make a server for it. -/
def Request.Plain : Request → Prop
  | .query (.network _) => False
  | .call (.createServer _) => False
  | .call (.setAttachment ..) => False
  | .execute (.putService _) => False
  | .execute (.putPort _) => False
  | _ => True

/-- The request is about services and bindings, and makes no server. -/
def Request.OfUpkeep (r : Request) : Prop := r.OfDhcp ∧ r.Plain

/-- The request forgets no service, and reports of none that it was made or taken down. -/
def Request.Silent : Request → Prop
  | .execute (.deleteService _) => False
  | .report (.serverCreated ..) => False
  | .report (.serverDeleted ..) => False
  | _ => True

/-- The request is about bindings: no server is made or taken down. -/
def Request.OfBindings (r : Request) : Prop := r.OfDhcp ∧ r.Plain ∧ r.Silent

/-- The request looks up services and bindings or removes them. -/
def Request.OfRemoval : Request → Prop
  | .call (.deleteServer _) => True
  | .call (.deleteBinding ..) => True
  | .execute (.getService _) => True
  | .execute (.deleteService _) => True
  | .execute (.bindingsOf _) => True
  | .execute (.bindingsUnder _) => True
  | .execute (.deleteBinding ..) => True
  | .report _ => True
  | _ => False

/-- A removal makes no server. -/
theorem Request.OfRemoval.upkeep {r : Request} (h : r.OfRemoval) : r.OfUpkeep := by
  cases r with
  | call c => cases c <;> first | exact h.elim | exact ⟨trivial, trivial⟩
  | execute st => cases st <;> first | exact h.elim | exact ⟨trivial, trivial⟩
  | report e => exact ⟨trivial, trivial⟩
  | _ => exact h.elim

namespace Handler.Within

variable {α : Type} {h : Handler α}

/-- Upkeep is about services and bindings. -/
theorem ofDhcp (upkeep : h.Within Request.OfUpkeep) : h.Within Request.OfDhcp :=
  upkeep.mono fun _ h => h.1

/-- A handler whose requests are about services and bindings takes no lock. -/
theorem free (ofDhcp : h.Within Request.OfDhcp) : h.Within Request.Free :=
  ofDhcp.mono fun _ => Request.OfDhcp.free

/-- Work on bindings is upkeep. -/
theorem upkeep (bindings : h.Within Request.OfBindings) : h.Within Request.OfUpkeep :=
  bindings.mono fun _ h => ⟨h.1, h.2.1⟩

/-- Silent removals are work on bindings. -/
theorem bindings (removal : h.Within fun r => r.OfRemoval ∧ r.Silent) :
    h.Within Request.OfBindings :=
  removal.mono fun _ h => ⟨h.1.upkeep.1, h.1.upkeep.2, h.2⟩

/-- A handler that only removes makes no server. -/
theorem upkeep_of_removal (removal : h.Within Request.OfRemoval) : h.Within Request.OfUpkeep :=
  removal.mono fun _ => Request.OfRemoval.upkeep

end Handler.Within

namespace Dhcp

open Overlay.Handler

variable (settings : Settings) (p : Port)

theorem within_settle {P : Request → Prop} (answer : Except Controller.Error Unit) :
    (settle answer).Within P := by
  cases answer with
  | ok a => exact .pure a
  | error e => exact .ite (fun _ => .pure ()) fun _ => .throw _

theorem within_valid {P : Request → Prop} {α : Type} (a : Except InvalidInput α) :
    (valid a).Within P := by
  cases a with
  | ok a => exact .pure a
  | error cause => exact .throw _

/-- Making a server is about services and bindings. -/
theorem within_createService (n : Network) (s : Subnet) :
    (createService settings n s p).Within Request.OfDhcp := by
  rw [createService]
  cases serverConfig n s p settings with
  | error e => exact .throw e
  | ok config =>
      dsimp only
      rw [pure_bind]
      refine .bind (.call trivial) fun serverId => .bind (.now trivial) fun time => ?_
      refine .bind (.execute trivial) fun _ => .bind (.report trivial) fun _ => ?_
      refine .bind (.execute trivial) fun mapping => ?_
      cases mapping with
      | none => exact .pure _
      | some m => exact .bind (.call trivial) fun _ => .pure _

/-- Making the server of a network that has none is about services and bindings. -/
theorem within_createServiceFor : (createServiceFor settings p).Within Request.OfDhcp := by
  refine .bind (.execute trivial) fun service => ?_
  cases service with
  | some x => exact .pure ()
  | none =>
      refine .bind (within_valid _) fun address => ?_
      cases address with
      | none => exact .pure ()
      | some f =>
          refine .bind (.query trivial) fun subnet => ?_
          cases subnet with
          | none => exact .throw _
          | some s =>
              refine .ite (fun _ => ?_) fun _ => .pure ()
              refine .bind (.query trivial) fun network => ?_
              cases network with
              | none => exact .throw _
              | some n => exact .bind (within_createService settings p n s) fun _ => .pure ()

/-- Moving a server is work on bindings. -/
theorem within_moveServer (old new : Port) : (moveServer old new).Within Request.OfBindings := by
  refine .bind (within_valid _) fun address => ?_
  cases address with
  | none => exact .pure ()
  | some f =>
      refine .ite (fun _ => .pure ()) fun _ => ?_
      refine .bind (.execute ⟨trivial, trivial, trivial⟩) fun service => ?_
      cases service with
      | none => exact .pure ()
      | some x => exact .call ⟨trivial, trivial, trivial⟩

/-- Taking down a server only removes. -/
theorem within_teardown (networkId : String) (owner : Option String) :
    (teardown networkId owner).Within Request.OfRemoval := by
  refine .bind (.execute trivial) fun service => ?_
  cases service with
  | none => exact .pure ()
  | some x =>
      refine .ite (fun _ => .pure ()) fun _ => ?_
      refine .bind (.tryCall trivial) fun answer => ?_
      refine .bind (within_settle answer) fun _ => ?_
      refine .bind (.execute trivial) fun orphans => .bind (.forM (fun b => ?_) orphans) fun _ => ?_
      · exact .bind (.execute trivial) fun _ => .pure ()
      · exact .bind (.execute trivial) fun _ => .report trivial

/-- Binding an address is work on bindings. -/
theorem within_bindAddress (portId : String) (d : Desired) (x : Store.Service) :
    (bindAddress settings portId d x).Within Request.OfBindings := by
  refine .bind (.call ⟨trivial, trivial, trivial⟩) fun bindingId => .bind ?_ fun _ => ?_
  · refine .bind (.execute ⟨trivial, trivial, trivial⟩) fun rows => ?_
    split
    · exact .pure ()
    · exact .bind (.tryCall ⟨trivial, trivial, trivial⟩) within_settle
  · exact .bind (.now ⟨trivial, trivial, trivial⟩) fun time =>
      .bind (.execute ⟨trivial, trivial, trivial⟩) fun _ => .report ⟨trivial, trivial, trivial⟩

/-- Moving an address is work on bindings. -/
theorem within_moveAddress (portId : String) (b : Store.Binding) (d : Desired)
    (u : BindingUpdate) : (moveAddress portId b d u).Within Request.OfBindings :=
  .bind (.call ⟨trivial, trivial, trivial⟩) fun _ =>
    .bind (.now ⟨trivial, trivial, trivial⟩) fun _ =>
      .bind (.execute ⟨trivial, trivial, trivial⟩) fun _ => .report ⟨trivial, trivial, trivial⟩

/-- Releasing an address only removes, and reports of no server. -/
theorem within_releaseAddress (portId : String) (b : Store.Binding) :
    (releaseAddress portId b).Within fun r => r.OfRemoval ∧ r.Silent :=
  .bind (.tryCall ⟨trivial, trivial⟩) fun answer => .bind (within_settle answer) fun _ =>
    .bind (.execute ⟨trivial, trivial⟩) fun _ => .report ⟨trivial, trivial⟩

/-- Carrying out a change is work on bindings. -/
theorem within_applyChange (portId : String) (service : Option Store.Service) (c : Change) :
    (applyChange settings portId service c).Within Request.OfBindings := by
  cases c with
  | keep => exact .pure ()
  | create d =>
      cases service with
      | none => exact .throw _
      | some x => exact within_bindAddress settings portId d x
  | update b d u => exact within_moveAddress portId b d u
  | delete b => exact (within_releaseAddress portId b).bindings

/-- Finding the served subnets is work on bindings. -/
theorem within_servedSubnets (networkId : String) :
    (servedSubnets networkId).Within Request.OfBindings :=
  .bind (.query ⟨trivial, trivial, trivial⟩) fun _ => .pure _

/-- Finding the service that changes need is work on bindings. -/
theorem within_serviceFor (changes : List Change) :
    (serviceFor p changes).Within Request.OfBindings := by
  refine .ite (fun _ => ?_) fun _ => .pure none
  refine .bind (.execute ⟨trivial, trivial, trivial⟩) fun service => ?_
  cases service with
  | none => exact .throw _
  | some x => exact .pure (some x)

/-- Converging a port is work on bindings. -/
theorem within_converge (current : List Store.Binding) :
    (converge settings p current).Within Request.OfBindings := by
  have changed : ∀ desired, Within Request.OfBindings (do
      let changes := plan current desired (Template.ofSettings settings)
      let service ← serviceFor p changes
      changes.forM (applyChange settings p.id service)) := fun desired =>
    .bind (within_serviceFor p _) fun service => .forM (within_applyChange settings p.id service) _
  rw [converge]
  split
  · refine .bind (within_servedSubnets p.networkId) fun subnetIds => ?_
    exact changed (desiredBindings p subnetIds)
  · exact changed []

theorem within_ensureOnlyDhcpSubnet (s : Subnet) :
    (ensureOnlyDhcpSubnet settings s).Within Request.OfBindings := by
  refine .ite (fun _ => .pure ()) fun _ =>
    .bind (.query ⟨trivial, trivial, trivial⟩) fun subnets => ?_
  split
  · exact .throw _
  · exact .pure ()

theorem within_subnet (pass : Pass) (id : String) :
    (pass.subnet id).Within Request.OfBindings := by
  rw [Pass.subnet]
  split
  · exact .pure _
  · exact .bind (.query ⟨trivial, trivial, trivial⟩) fun _ => .pure _

theorem within_switchFor (subnet : Option Subnet) (networkId : String) :
    (switchFor subnet networkId).Within Request.OfBindings := by
  cases subnet with
  | none => exact .pure _
  | some s => exact .ite (fun _ => .execute ⟨trivial, trivial, trivial⟩) fun _ => .pure _

/-- What is done about a port that changes and is still known. -/
theorem within_follow (old new : Port) :
    Within Request.OfDhcp (do
      let current ← execute (.bindingsOf new.id)
      converge settings new current
      if new.role = .dhcp then
        if old.role = .dhcp then moveServer old new else createServiceFor settings new) := by
  refine .bind (.execute trivial) fun current =>
    .bind (within_converge settings new current).upkeep.ofDhcp fun _ => ?_
  refine .ite (fun _ => ?_) fun _ => .pure ()
  exact .ite (fun _ => (within_moveServer old new).upkeep.ofDhcp) fun _ =>
    within_createServiceFor settings new

/-! What is done under the locks of a port: when it comes, when it changes, when it goes. -/

theorem within_coming : Within Request.OfDhcp (do
    match p.role with
    | .dhcp => createServiceFor settings p
    | .compute => converge settings p []
    | .other => return) := by
  cases p.role with
  | dhcp => exact within_createServiceFor settings p
  | compute => exact (within_converge settings p []).upkeep.ofDhcp
  | other => exact .pure ()

theorem within_changing (old new : Port) : Within Request.OfDhcp (do
    match ← query (.port new.id) with
    | none => return
    | some _ =>
      if old.role = .dhcp ∧ new.role ≠ .dhcp then teardown old.networkId (some old.id)
      let current ← execute (.bindingsOf new.id)
      converge settings new current
      if new.role = .dhcp then
        if old.role = .dhcp then moveServer old new else createServiceFor settings new) := by
  refine .bind (.query trivial) fun found => ?_
  cases found with
  | none => exact .pure ()
  | some _ =>
      refine .ite (fun _ => ?_) fun _ => within_follow settings old new
      have gone := (within_teardown old.networkId (some old.id)).upkeep_of_removal
      exact .bind gone.ofDhcp fun _ => within_follow settings old new

theorem within_going : Within Request.OfRemoval (do
    let rows ← execute (.bindingsOf p.id)
    rows.forM (releaseAddress p.id)
    if p.role = .dhcp then teardown p.networkId (some p.id)) := by
  refine .bind (.execute trivial) fun rows => ?_
  have released : (rows.forM (releaseAddress p.id)).Within Request.OfRemoval :=
    .forM (fun b => (within_releaseAddress p.id b).mono fun _ h => h.1) rows
  refine .bind released fun _ => ?_
  exact .ite (fun _ => within_teardown p.networkId (some p.id)) fun _ => .pure ()

end Dhcp

end Overlay
