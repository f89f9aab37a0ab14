import Overlay.Proofs.Dhcp.Events
import Overlay.Proofs.Dhcp.Requests
import Overlay.Proofs.LockOrder

/-!
# The locks of an event

An event is answered without any request, or all that is done about it is done under the lock of its
network: an event of a port takes the port's lock inside it, and nothing further takes a lock. What
is true of all handlers of this form is so true of every event but a rebuild, which goes from one
network to the next.

Main statement: `Dhcp.framed_event`.
-/

namespace Overlay

open Program (Guarded Holding)

namespace Handler

/-- The handler makes no request, or does everything under the lock `key`, perhaps with one later
lock inside. What it asks for besides is of this kind. -/
inductive Framed (P : Request → Prop) (key : LockKey) {α : Type} : Handler α → Prop
  | answered (result : Except Error α) : Framed P key (ExceptT.mk (.done result))
  | locked {body : Handler α} (within : body.Within P) : Framed P key (Handler.locked key body)
  | nested {inner : LockKey} (later : key.rank < inner.rank) {body : Handler α}
      (within : body.Within P) : Framed P key (Handler.locked key (Handler.locked inner body))

namespace Framed

variable {α : Type} {P Q : Request → Prop} {key : LockKey} {h : Handler α}

theorem within (framed : h.Framed P key) (weaker : ∀ r, P r → Q r)
    (locks : ∀ r : Request, ¬ r.Free → Q r) : h.Within Q := by
  cases framed with
  | answered result => exact trivial
  | locked within => exact .locked (locks _ id) (locks _ id) (within.mono weaker)
  | nested later within =>
      exact .locked (locks _ id) (locks _ id)
        (.locked (locks _ id) (locks _ id) (within.mono weaker))

/-- The lock is taken first and given back last. -/
theorem guarded (framed : h.Framed Request.Free key) : Guarded key h.run := by
  cases framed with
  | answered result => exact Or.inl ⟨result, rfl⟩
  | @locked body free =>
      refine Or.inr ⟨fun _ => body.run >>= fun result => .ask (.release key) fun _ => .done result,
        rfl, ?_⟩
      exact Holding.bind free fun result => .release (.done result)
  | @nested inner later body free =>
      have fresh : inner ∉ [key] := fun same =>
        Nat.lt_irrefl _ (List.mem_singleton.mp same ▸ later)
      refine Or.inr ⟨fun _ => .ask (.acquire inner) fun _ =>
        (body.run >>= fun result => .ask (.release inner) fun _ => .done result) >>= fun result =>
          .ask (.release key) fun _ => .done result, rfl, .acquire fresh ?_⟩
      rw [bind_assoc]
      exact Holding.bind free fun result => .release (.release (.done result))

theorem climbs (framed : h.Framed Request.Free key) : h.Climbs := by
  cases framed with
  | answered result => exact .done result
  | locked free => exact .locked key free
  | nested later free => exact .locked_locked later free

end Framed

end Handler

namespace Dhcp

open Overlay.Handler

variable (settings : Settings)

theorem framed_lockedPort {α : Type} {P : Request → Prop} (p : Port) {body : Handler α}
    (h : body.Within P) : (lockedPort p body).Framed P (.network p.networkId) :=
  .nested (LockKey.network_lt_port _ _) h

theorem framed_networkCreated (n : Network) :
    (networkCreated settings n).Framed Request.Free (.network n.id) := by
  rw [networkCreated]
  split
  · exact .answered (.ok none)
  · cases settings.metadataProxy with
    | error e => exact .answered _
    | ok proxyId =>
        refine .locked (.bind (.execute trivial) fun switch => ?_)
        cases switch with
        | none => exact .throw _
        | some switchId =>
            exact .bind (.call trivial) fun port => .bind (.report trivial) fun _ => .pure _

/-- All that is done about an event is done under the lock of its network, and takes no more locks
than the one of the port that the event is about. -/
theorem framed_event {e : Event} {networkId : String} (h : e.networkId? = some networkId) :
    (e.handler settings).Framed Request.Free (.network networkId) := by
  -- what stands under the lock of a network takes no lock itself
  have torn : ∀ networkId, (teardown networkId none).Within Request.Free := fun networkId =>
    (within_teardown networkId none).upkeep_of_removal.ofDhcp.free
  have checked : ∀ s : Subnet, (ensureOnlyDhcpSubnet settings s).Within Request.Free := fun s =>
    (within_ensureOnlyDhcpSubnet settings s).upkeep.ofDhcp.free
  cases e with
  | networkCreated n => cases h; exact framed_networkCreated settings n
  | networkDeleted networkId => cases h; exact .locked (torn networkId)
  | subnetCreated s =>
      cases h
      show (subnetCreated settings s).Framed _ _
      rw [subnetCreated]
      split
      · exact .locked (checked s)
      · exact .answered (.ok ())
  | subnetUpdated old new =>
      cases h
      refine .locked ?_
      split
      · exact checked new
      · exact torn new.networkId
      · exact .pure ()
  | subnetDeleted s =>
      cases h
      show (subnetDeleted s).Framed _ _
      rw [subnetDeleted]
      split
      · exact .locked (torn s.networkId)
      · exact .answered (.ok ())
  | portCreated p =>
      cases h
      show (portCreated settings p).Framed _ _
      rw [portCreated]
      split
      · exact framed_lockedPort p (within_coming settings p).free
      · exact .answered (.ok ())
  | portUpdated old new =>
      cases h
      show (portUpdated settings old new).Framed _ _
      rw [portUpdated]
      split
      · exact .answered (.ok ())
      · exact framed_lockedPort new (within_changing settings old new).free
  | portDeleted p =>
      cases h
      exact framed_lockedPort p (within_going p).upkeep_of_removal.ofDhcp.free
  | resync profileId => cases h

end Dhcp

end Overlay
