import Mathlib.Data.List.Chain
import Overlay.Proofs.Dhcp.Frames
import Overlay.Proofs.Dhcp.Runs
import Overlay.Proofs.Keeps

/-!
# With native DHCP off

When native DHCP is switched off, services, bindings and servers of the time before may be left.
Events then let go what belongs to objects that go or change, and do nothing else: no event asks the
controller for anything but the removal of a server or a binding, and no row and no object at the
controller is made or changed. This is so in any surroundings and whatever fails.

Main statement: `off_only_removes`.
-/

namespace Overlay

namespace World

/-- Of services, bindings and servers, at the store and at the controller, `w'` has some that `w`
has, unchanged and in the same order. -/
structure Fewer (w w' : World) : Prop where
  services : Option.Rel List.Sublist w'.store.services w.store.services
  bindings : Option.Rel List.Sublist w'.store.bindings w.store.bindings
  servers : w'.controller.servers.Sublist w.controller.servers
  held : w'.controller.bindings.Sublist w.controller.bindings

/-- From `w` to `w'` servers and bindings were removed, or were tried to be removed, and nothing
else was asked for. -/
def Retreats (w w' : World) : Prop :=
  (∃ made, w'.issued = w.issued ++ made ∧
    ∀ c ∈ made, c.operation = .deleteServer ∨ c.operation = .deleteBinding) ∧ w.Fewer w'

variable {w w' w'' : World}

theorem rel_sublist_refl {ρ : Type} (table : Option (List ρ)) :
    Option.Rel List.Sublist table table := by
  cases table with
  | none => exact .none
  | some rows => exact .some (List.Sublist.refl rows)

theorem rel_sublist_trans {ρ : Type} {t t' t'' : Option (List ρ)} (h : Option.Rel List.Sublist t t')
    (h' : Option.Rel List.Sublist t' t'') : Option.Rel List.Sublist t t'' := by
  cases h with
  | none => exact h'
  | some sub =>
      cases h' with
      | some sub' => exact .some (sub.trans sub')

theorem Fewer.refl (w : World) : w.Fewer w :=
  ⟨rel_sublist_refl _, rel_sublist_refl _, List.Sublist.refl _, List.Sublist.refl _⟩

theorem Fewer.trans (h : w.Fewer w') (h' : w'.Fewer w'') : w.Fewer w'' :=
  ⟨rel_sublist_trans h'.services h.services, rel_sublist_trans h'.bindings h.bindings,
    h'.servers.trans h.servers, h'.held.trans h.held⟩

/-- The store is left alone. -/
theorem Fewer.of_store_eq (store : w'.store = w.store)
    (servers : w'.controller.servers.Sublist w.controller.servers)
    (held : w'.controller.bindings.Sublist w.controller.bindings) : w.Fewer w' :=
  ⟨store ▸ rel_sublist_refl _, store ▸ rel_sublist_refl _, servers, held⟩

/-- What leaves services, bindings and servers alone leaves no more of them. -/
theorem Untouched.fewer (h : w.Untouched w') : w.Fewer w' := by
  refine ⟨?_, ?_, ?_, ?_⟩
  · exact h.services ▸ rel_sublist_refl _
  · exact h.bindings ▸ rel_sublist_refl _
  · exact h.servers ▸ List.Sublist.refl _
  · exact h.held ▸ List.Sublist.refl _

namespace Retreats

theorem refl (w : World) : w.Retreats w :=
  ⟨⟨[], (List.append_nil _).symm, nofun⟩, .refl w⟩

theorem trans (h : w.Retreats w') (h' : w'.Retreats w'') : w.Retreats w'' := by
  obtain ⟨⟨made, issued, removals⟩, fewer⟩ := h
  obtain ⟨⟨made', issued', removals'⟩, fewer'⟩ := h'
  refine ⟨⟨made ++ made', ?_, fun c hc => ?_⟩, fewer.trans fewer'⟩
  · rw [issued', issued, List.append_assoc]
  · exact (List.mem_append.mp hc).elim (removals c) (removals' c)

instance : IsPreorder World Retreats where
  refl := refl
  trans _ _ _ := trans

/-- Nothing is asked of the controller. -/
theorem of_fewer (issued : w'.issued = w.issued) (fewer : w.Fewer w') : w.Retreats w' :=
  ⟨⟨[], issued.trans (List.append_nil _).symm, nofun⟩, fewer⟩

end Retreats

end World

/-- The request looks up or removes, or is about a lock. -/
def Request.OfRetreat (r : Request) : Prop := r.OfRemoval ∨ ¬ r.Free

namespace World.Retreats

open Controller (Call)

/-- A call that removes something, whether it gets through or not. -/
theorem call {c : Call} (h : Request.OfRemoval (.call c)) (w : World) :
    w.Retreats (w.call c).2 := by
  have removal : c.operation = .deleteServer ∨ c.operation = .deleteBinding := by
    cases c with
    | deleteServer id => exact Or.inl rfl
    | deleteBinding serverId bindingId => exact Or.inr rfl
    | _ => exact h.elim
  have fewer : (w.controller.perform c).2.servers.Sublist w.controller.servers ∧
      (w.controller.perform c).2.bindings.Sublist w.controller.bindings := by
    cases c with
    | deleteServer id =>
        simp only [Controller.State.perform, Controller.State.effect,
          Controller.State.deleteServer]
        split
        · exact ⟨List.Sublist.refl _, List.Sublist.refl _⟩
        · split
          · exact ⟨List.Sublist.refl _, List.Sublist.refl _⟩
          · exact ⟨List.filter_sublist, List.filter_sublist⟩
    | deleteBinding serverId bindingId =>
        simp only [Controller.State.perform, Controller.State.effect,
          Controller.State.deleteBinding]
        split
        · exact ⟨List.Sublist.refl _, List.filter_sublist⟩
        · exact ⟨List.Sublist.refl _, List.Sublist.refl _⟩
    | _ => exact h.elim
  have only : ∀ made ∈ [c], made.operation = .deleteServer ∨ made.operation = .deleteBinding :=
    List.forall_mem_singleton.mpr removal
  cases fate : w.callFaults.next c.operation with
  | some e =>
      rw [call_lost fate]
      exact ⟨⟨[c], rfl, only⟩, .of_store_eq rfl (List.Sublist.refl _) (List.Sublist.refl _)⟩
  | none =>
      rw [call_arrived fate]
      exact ⟨⟨[c], rfl, only⟩, .of_store_eq rfl fewer.1 fewer.2⟩

/-- A statement that looks something up or removes it. -/
theorem execute {st : Store.Statement} (h : Request.OfRemoval (.execute st)) (w : World) :
    w.Retreats (w.execute st).2 := by
  refine of_fewer rfl ⟨?_, ?_, List.Sublist.refl _, List.Sublist.refl _⟩
  · cases st with
    | deleteService networkId =>
        simp only [World.execute, Store.execute]
        cases w.store.services with
        | none => exact .none
        | some rows => exact .some List.filter_sublist
    | _ => first | exact h.elim | exact rel_sublist_refl _
  · cases st with
    | deleteBinding portId address =>
        simp only [World.execute, Store.execute]
        cases w.store.bindings with
        | none => exact .none
        | some rows => exact .some List.filter_sublist
    | _ => first | exact h.elim | exact rel_sublist_refl _

theorem answer {r : Request} (h : r.OfRetreat) (w : World) : w.Retreats (w.answer r).2 := by
  have removal : r.Free → r.OfRemoval := fun free => h.resolve_right fun locks => locks free
  cases r with
  | acquire key => exact refl w
  | release key => exact refl w
  | call c => exact call (removal trivial) w
  | execute st => exact execute (removal trivial) w
  | report e =>
      rw [World.answer]
      split
      · exact of_fewer rfl (.of_store_eq rfl (List.Sublist.refl _) (List.Sublist.refl _))
      · exact refl w
  | _ => exact (removal trivial).elim

end World.Retreats

namespace Dhcp

open Overlay.Handler

variable {settings : Settings}

/-- With native DHCP off, an event that is about a network only looks up and removes. -/
theorem framed_off (off : settings.nativeDhcp = false) {e : Event} {networkId : String}
    (h : e.networkId? = some networkId) :
    (e.handler settings).Framed Request.OfRemoval (.network networkId) := by
  have on : ¬ settings.nativeDhcp = true := fun on => Bool.noConfusion (off.symm.trans on)
  -- without native DHCP the check asks for nothing
  have unchecked : ∀ s : Subnet, (ensureOnlyDhcpSubnet settings s).Within Request.OfRemoval :=
    fun s => .ite (fun _ => .pure ()) fun on' => absurd (by rw [off]; rfl) on'
  cases e with
  | networkCreated n =>
      cases h
      show (networkCreated settings n).Framed _ _
      rw [networkCreated, if_pos (by rw [off]; rfl)]
      exact .answered (.ok none)
  | networkDeleted networkId => cases h; exact .locked (within_teardown networkId none)
  | subnetCreated s =>
      cases h
      show (subnetCreated settings s).Framed _ _
      rw [subnetCreated]
      split
      · exact .locked (unchecked s)
      · exact .answered (.ok ())
  | subnetUpdated old new =>
      cases h
      refine .locked ?_
      split
      · exact unchecked new
      · exact within_teardown new.networkId none
      · exact .pure ()
  | subnetDeleted s =>
      cases h
      show (subnetDeleted s).Framed _ _
      rw [subnetDeleted]
      split
      · exact .locked (within_teardown s.networkId none)
      · exact .answered (.ok ())
  | portCreated p =>
      cases h
      show (portCreated settings p).Framed _ _
      rw [portCreated, if_neg on]
      exact .answered (.ok ())
  | portUpdated old new =>
      cases h
      show (portUpdated settings old new).Framed _ _
      rw [portUpdated, off]
      exact .answered (.ok ())
  | portDeleted p => cases h; exact framed_lockedPort p (within_going p)
  | resync profileId => cases h

/-- With native DHCP off, nothing is rebuilt. -/
theorem within_off (off : settings.nativeDhcp = false) (e : Event) :
    (e.handler settings).Within Request.OfRetreat := by
  cases network : e.networkId? with
  | some networkId => exact (framed_off off network).within (fun _ => Or.inl) fun _ => Or.inr
  | none =>
      cases e with
      | resync profileId =>
          have off' : (settings.withDhcpProfile profileId).nativeDhcp = false := by
            cases profileId <;> exact off
          have refused : (settings.withDhcpProfile profileId).validateResync
              = .error .resyncNativeDhcpOff := by
            rw [Settings.validateResync, off']
            rfl
          -- the pass is refused before it asks for anything
          show (resync settings profileId).Within _
          rw [resync, refused]
          exact trivial
      | _ => exact nomatch network

/-- Whatever the surroundings are and whatever fails. -/
theorem Delivery.retreats (d : Delivery) (off : d.settings.nativeDhcp = false) :
    d.world.Retreats d.after :=
  Handler.Keeps.of_within (within_off off d.event) (fun _ => World.Retreats.answer) d.world

/-- Events that are delivered with native DHCP off, one after the other, ask the controller for
nothing but removals, and leave nothing that was not there before, after each event and after all of
them. Between events everything may be changed from outside but services, bindings and servers. -/
theorem off_only_removes {ds : List Delivery}
    (off : ∀ d ∈ ds, d.settings.nativeDhcp = false)
    (linked : ds.IsChain fun d d' => d.after.Untouched d'.world) :
    (∀ d ∈ ds, d.world.Retreats d.after) ∧
      ds.Pairwise fun d d' => d.world.Fewer d'.after := by
  refine ⟨fun d hd => d.retreats (off d hd), ?_⟩
  induction ds with
  | nil => exact .nil
  | cons d rest ih =>
      obtain ⟨here, off⟩ := List.forall_mem_cons.mp off
      have later := ih off linked.tail
      refine List.pairwise_cons.mpr ⟨fun d' hd' => ?_, later⟩
      have first := (d.retreats here).2
      cases rest with
      | nil => exact nomatch hd'
      | cons next rest =>
          have between := (List.isChain_cons_cons.mp linked).1.fewer
          have upTo := first.trans between
          rcases List.mem_cons.mp hd' with rfl | hd'
          · exact upTo.trans (d'.retreats (off d' List.mem_cons_self)).2
          · exact upTo.trans ((List.pairwise_cons.mp later).1 d' hd')

namespace Sample

/-- Native DHCP is switched off. -/
def off : Settings := { Sample.settings with nativeDhcp := false }

/-- The instance's port goes, and its binding cannot be removed. -/
def stuck : Delivery := ⟨off, .portDeleted instancePort,
  { bound.after with
    callFaults := Faults.none.set .deleteBinding (.window ⟨.request, "unavailable"⟩ 0 (some 1)) }⟩

/-- The event of its end is delivered once more. -/
def unbound : Delivery := ⟨off, .portDeleted instancePort, stuck.after⟩

/-- The network goes. -/
def vacated : Delivery := ⟨off, .networkDeleted "net", unbound.after⟩

end Sample

/-- What is left of the time before goes bit by bit, and nothing comes back. -/
theorem off_removes_leftovers :
    (∀ d ∈ [Sample.stuck, Sample.unbound, Sample.vacated], d.world.Retreats d.after) ∧
      [Sample.stuck, Sample.unbound, Sample.vacated].Pairwise
        (fun d d' => d.world.Fewer d'.after) ∧
      Sample.stuck.answer.isOk = false ∧ Sample.stuck.after.controller.bindings.length = 1 ∧
      Sample.unbound.answer.isOk = true ∧ Sample.unbound.after.store.bindings = some [] ∧
      Sample.vacated.world.controller.servers.length = 1 ∧
      Sample.vacated.after.controller.servers = [] := by
  have same : ∀ w : World, w.Untouched w := fun _ => ⟨rfl, rfl, rfl, rfl, rfl, rfl⟩
  have off : ∀ d ∈ [Sample.stuck, Sample.unbound, Sample.vacated],
      d.settings.nativeDhcp = false := by
    intro d hd
    rcases List.mem_cons.mp hd with rfl | hd
    · rfl
    rcases List.mem_cons.mp hd with rfl | hd
    · rfl
    · cases List.mem_singleton.mp hd
      rfl
  obtain ⟨each, all⟩ := off_only_removes off
    (.cons_cons (same Sample.stuck.after) (.cons_cons (same Sample.unbound.after) (.singleton _)))
  exact ⟨each, all, by decide +kernel, by decide +kernel, by decide +kernel, by decide +kernel,
    by decide +kernel, by decide +kernel⟩

end Dhcp

end Overlay
