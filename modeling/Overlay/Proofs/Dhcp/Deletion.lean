import Overlay.Proofs.Dhcp.Departure

/-!
# A deletion that is broken off

When a port goes, its rows are let go one by one, each with its binding, until a binding cannot be
removed. `LetGo` says exactly what has been done then: which rows have gone, what their removals
met, and that nothing else has changed. What is left is in order, so the port can be deleted again.

Main statement: `deletion_stops_and_resumes`.
-/

namespace Overlay

open Controller (HeldServer HeldBinding)

/-- The fault that the removal of a binding meets, if `j` others are made before it. -/
def World.removalFault (w : World) (j : Nat) : Option Controller.Error :=
  (w.callFaults.pattern .deleteBinding).failing ((w.callFaults.pattern .deleteBinding).seen + j)

/-- One removal has been made. -/
theorem World.removalFault_count {w w' : World}
    (counted : w'.callFaults = w.callFaults.count .deleteBinding) (j : Nat) :
    w'.removalFault j = w.removalFault (j + 1) := by
  rw [removalFault, counted, failing_count, seen_count, if_pos rfl, removalFault]
  congr 1
  omega

namespace Dhcp

open Overlay.Handler

variable {w w' : World} {services : List Store.Service} {rows : List Store.Binding}

/-- A row that has gone, with the fault that the removal of its binding met, if any. -/
structure Removal where
  row : Store.Binding
  met : Option Controller.Error

/-- The binding went with the row. -/
def Removal.Took (g : Removal) (h : HeldBinding) : Prop := g.met = none ∧ h.key = g.row.name

instance (g : Removal) (h : HeldBinding) : Decidable (g.Took h) := by
  unfold Removal.Took; infer_instance

/-- These rows have been let go one after the other, and nothing else was done. Their removals were
the first that were made, none met another fault than that the binding is missing, and where one met
none, the binding has gone. There is an event on the trail for each row. -/
structure LetGo (w : World) (services : List Store.Service) (rows : List Store.Binding)
    (gone : List Removal) (w' : World) : Prop where
  coherent : Coherent w' services (rows.filter fun b => decide (∀ g ∈ gone, b ≠ g.row))
  faults : ∀ j g, gone[j]? = some g → g.met = w.removalFault j
  missing : ∀ g ∈ gone, ∀ e ∈ g.met, e.kind = .notFound
  controller : ∃ calls, w'.controller = { w.controller with
    calls
    bindings := w.controller.bindings.filter fun h => decide (∀ g ∈ gone, ¬ g.Took h) }
  networks : w'.store.networks = w.store.networks
  ports : w'.store.ports = w.store.ports
  trail : w'.trail = if w.auditing then
    w.trail ++ gone.map fun g => .bindingDeleted g.row.portId g.row.bindingId else w.trail
  auditing : w'.auditing = w.auditing

namespace LetGo

/-- Nothing has been let go. -/
theorem nil (coherent : Coherent w services rows) (store : w'.store = w.store)
    {calls : List Controller.Call} (controller : w'.controller = { w.controller with calls })
    (trail : w'.trail = w.trail) (auditing : w'.auditing = w.auditing) :
    LetGo w services rows [] w' where
  coherent := by
    rw [List.filter_eq_self.mpr fun b _ => decide_eq_true (List.forall_mem_nil _)]
    refine coherent.untouched ?_
    exact ⟨by rw [store], by rw [store], by rw [controller], by rw [controller],
      by rw [controller], by rw [controller]⟩
  faults j g h := nomatch h
  missing g hg := nomatch hg
  controller := by
    refine ⟨calls, ?_⟩
    rw [List.filter_eq_self.mpr fun h _ => decide_eq_true (List.forall_mem_nil _)]
    exact controller
  networks := by rw [store]
  ports := by rw [store]
  trail := by rw [List.map_nil, List.append_nil, ite_self, trail]
  auditing := auditing

/-- First one row, then others. -/
theorem cons {w₁ w₂ : World} {g : Removal} {gone : List Removal}
    (one : LetGo w services rows [g] w₁)
    (counted : ∀ j, w₁.removalFault j = w.removalFault (j + 1))
    (rest : LetGo w₁ services (rows.filter fun b => decide (b ≠ g.row)) gone w₂) :
    LetGo w services rows (g :: gone) w₂ where
  coherent := by
    rw [← Table.filter_forall_cons (P := fun (g : Removal) b => b ≠ g.row)]
    exact rest.coherent
  faults j g' h := by
    cases j with
    | zero =>
        cases h
        exact one.faults 0 g rfl
    | succ j => exact (rest.faults j g' h).trans (counted j)
  missing := List.forall_mem_cons.mpr ⟨one.missing g (List.mem_singleton_self g), rest.missing⟩
  -- the log of calls apart, what is left is what neither of the two has taken
  controller := by
    obtain ⟨calls₁, first⟩ := one.controller
    obtain ⟨calls, last⟩ := rest.controller
    simp only [List.forall_mem_singleton] at first
    refine ⟨calls, ?_⟩
    rw [last, first, ← Table.filter_forall_cons (P := fun (g : Removal) h => ¬ g.Took h)]
  networks := rest.networks.trans one.networks
  ports := rest.ports.trans one.ports
  trail := by
    rw [rest.trail, one.trail, one.auditing]
    split
    · rw [List.append_assoc]
      rfl
    · rfl
  auditing := rest.auditing.trans one.auditing

end LetGo

/-! ## One row -/

/-- The row of a binding goes, and the trail tells of it. -/
theorem leaves_dropRow (holds : w.store.Holds services rows) (b : Store.Binding) :
    Leaves (do
      let _ ← execute (.deleteBinding b.portId b.address)
      report (.bindingDeleted b.portId b.bindingId)) w fun r w' => r = .ok () ∧
        ∃ store, w' = { w with
            store
            trail := if w.auditing then w.trail ++ [.bindingDeleted b.portId b.bindingId]
              else w.trail } ∧
          store.networks = w.store.networks ∧ store.ports = w.store.ports ∧
          store.Holds services (Table.remove Store.Binding.key b.key rows) := by
  obtain ⟨⟨found, answer⟩, holds'⟩ := holds.deleteBinding b.portId b.address
  exact Leaves.executed answer (Leaves.reported ⟨rfl, _, rfl, rfl, rfl, holds'⟩)

/-- A binding that the controller holds is removed if the call arrives. -/
theorem Coherent.call_deleteBinding (coherent : Coherent w services rows) {b : Store.Binding}
    (hb : b ∈ rows) (arrived : w.removalFault 0 = none) :
    ∃ calls, w.call (.deleteBinding b.serverId b.bindingId) = (.ok (),
      { w.noted (.deleteBinding b.serverId b.bindingId) with
        controller := { w.controller with
          calls
          bindings := Table.remove HeldBinding.key b.name w.controller.bindings } }) := by
  have removed := Controller.State.deleteBinding_held (s := { w.controller with
    calls := w.controller.calls ++ [.deleteBinding b.serverId b.bindingId] })
    ⟨_, coherent.bound b hb, rfl⟩
  have answered := World.call_arrived (w := w) (c := .deleteBinding b.serverId b.bindingId) arrived
  rw [show w.controller.perform (.deleteBinding b.serverId b.bindingId) = _ from removed]
    at answered
  exact ⟨_, answered⟩

/-- The bindings that are left when one row has gone. -/
def Removal.left (g : Removal) (held : List HeldBinding) : List HeldBinding :=
  match g.met with
  | none => Table.remove HeldBinding.key g.row.name held
  | some _ => held

theorem Removal.filter_took (g : Removal) (held : List HeldBinding) :
    (held.filter fun h => decide (∀ g' ∈ [g], ¬ g'.Took h)) = g.left held := by
  obtain ⟨b, m⟩ := g
  cases m with
  | none =>
      refine List.filter_congr fun h _ => decide_eq_decide.mpr ?_
      rw [List.forall_mem_singleton]
      exact not_congr (and_iff_right rfl)
  | some e =>
      refine List.filter_eq_self.mpr fun h _ => decide_eq_true ?_
      rw [List.forall_mem_singleton]
      exact fun took => nomatch took.1

/-- One row has been let go. That what is left is in order is told by the ledger. -/
theorem LetGo.single (coherent : Coherent w services rows) {b : Store.Binding} (hb : b ∈ rows)
    {m : Option Controller.Error} (fault : w.removalFault 0 = m)
    (missing : ∀ e ∈ m, e.kind = .notFound)
    (holds : w'.store.Holds services (Table.remove Store.Binding.key b.key rows))
    (networks : w'.store.networks = w.store.networks) (ports : w'.store.ports = w.store.ports)
    {calls : List Controller.Call} (controller : w'.controller = { w.controller with
      calls
      bindings := Removal.left ⟨b, m⟩ w.controller.bindings })
    (trail : w'.trail = if w.auditing then w.trail ++ [.bindingDeleted b.portId b.bindingId]
      else w.trail) (auditing : w'.auditing = w.auditing) :
    LetGo w services rows [⟨b, m⟩] w' where
  coherent := by
    have fits : (Act.release b m).Fits (Coherent.ledgerOf w services rows) := ⟨hb, missing⟩
    have linked := coherent.linked.apply fits
    have agreed := coherent.agreed.apply coherent.linked fits fun _ _ _ same => nomatch same
    -- rows occur once, so only this one goes with its key
    have left : (rows.filter fun c => decide (∀ g ∈ [Removal.mk b m], c ≠ g.row))
        = Table.remove Store.Binding.key b.key rows := by
      refine List.filter_congr fun c hc => decide_eq_decide.mpr ?_
      rw [List.forall_mem_singleton]
      exact not_congr ⟨congrArg _, Table.Keyed.eq_of_key coherent.rows_once hc hb⟩
    rw [left]
    cases m with
    | none =>
        exact .of_ledger ⟨holds, by rw [controller]; exact ⟨rfl, rfl, rfl, rfl⟩, networks, ports⟩
          linked agreed
    | some e =>
        exact .of_ledger ⟨holds, by rw [controller]; exact ⟨rfl, rfl, rfl, rfl⟩, networks, ports⟩
          linked agreed
  faults j g h := by
    cases j with
    | zero =>
        cases h
        exact fault.symm
    | succ j => exact nomatch h
  missing := List.forall_mem_singleton.mpr missing
  controller := ⟨calls, by rw [Removal.filter_took, controller]⟩
  networks := networks
  ports := ports
  trail := trail
  auditing := auditing

/-- What letting one row go comes to, by the fault that the removal of its binding meets. -/
theorem leaves_releaseAddress (coherent : Coherent w services rows) {b : Store.Binding}
    (hb : b ∈ rows) :
    (releaseAddress b.portId b).Leaves w fun r w' =>
      w'.issued = w.issued ++ [.deleteBinding b.serverId b.bindingId] ∧
      (∀ j, w'.removalFault j = w.removalFault (j + 1)) ∧
      match r with
      | .ok _ => LetGo w services rows [⟨b, w.removalFault 0⟩] w'
      | .error err => LetGo w services rows [] w' ∧
        ∃ e, w.removalFault 0 = some e ∧ e.kind ≠ .notFound ∧ err = .controller e := by
  refine Leaves.bind (P := fun r w' =>
    r = .ok (w.call (.deleteBinding b.serverId b.bindingId)).1 ∧
    w' = (w.call (.deleteBinding b.serverId b.bindingId)).2) ⟨rfl, rfl⟩ ?_
    fun e w₁ _ h => nomatch h.1
  rintro answer w₁ - ⟨same, rfl⟩
  rw [Except.ok.inj same]
  cases fate : w.removalFault 0 with
  | none =>
      obtain ⟨calls, called⟩ := coherent.call_deleteBinding hb fate
      rw [called]
      refine Leaves.mono (leaves_dropRow
        (w := { w.noted (.deleteBinding b.serverId b.bindingId) with
          controller := { w.controller with
            calls
            bindings := Table.remove HeldBinding.key b.name w.controller.bindings } })
        coherent.store b) ?_
      rintro r w₂ - ⟨rfl, store, rfl, networks, ports, holds⟩
      refine ⟨rfl, World.removalFault_count rfl, ?_⟩
      exact .single coherent hb fate (fun e h => nomatch h) holds networks ports rfl rfl rfl
  -- a lost call stops the deletion, unless the binding is said to be gone already
  | some e =>
      rw [World.call_lost (c := .deleteBinding b.serverId b.bindingId) fate]
      by_cases missing : e.kind = .notFound
      · rw [settle_missing missing, pure_bind]
        refine Leaves.mono (leaves_dropRow
          (w := w.noted (.deleteBinding b.serverId b.bindingId)) coherent.store b) ?_
        rintro r w₂ - ⟨rfl, store, rfl, networks, ports, holds⟩
        refine ⟨rfl, World.removalFault_count rfl, ?_⟩
        refine .single coherent hb fate ?_ holds networks ports rfl rfl rfl
        rintro e' ⟨⟩
        exact missing
      · rw [settle_error missing]
        exact Leaves.throw ⟨rfl, World.removalFault_count rfl, .nil coherent rfl rfl rfl rfl, e,
          rfl, missing, rfl⟩

/-! ## All rows of a port -/

/-- Rows are tried in order, with one call for each, until the removal for one of them meets another
fault than that the binding is missing, which is the answer then. -/
structure Stopped (w : World) (todo : List Store.Binding) (gone : List Removal)
    (left : List Store.Binding) (r : Except Error Unit) (w' : World) : Prop where
  split : todo = gone.map (·.row) ++ left
  issued : w'.issued = w.issued ++ (gone.map (·.row) ++ left.take 1).map fun b =>
    .deleteBinding b.serverId b.bindingId
  complete : r = .ok () ↔ left = []
  broken : left ≠ [] → ∃ e, w.removalFault gone.length = some e ∧ e.kind ≠ .notFound ∧
    r = .error (.controller e)

theorem leaves_releaseEach {portId : String} (coherent : Coherent w services rows)
    {todo : List Store.Binding} (there : ∀ b ∈ todo, b ∈ rows ∧ b.portId = portId)
    (once : todo.Nodup) :
    (todo.forM (releaseAddress portId)).Leaves w fun r w' => ∃ gone left,
      LetGo w services rows gone w' ∧ Stopped w todo gone left r w' := by
  -- letting one row go leaves the others there, since no row is tried twice
  induction todo generalizing w rows with
  | nil =>
      exact Leaves.pure ⟨[], [], .nil coherent rfl rfl rfl rfl, rfl, (List.append_nil _).symm,
        iff_of_true rfl rfl, fun some => absurd rfl some⟩
  | cons b rest ih =>
      obtain ⟨⟨hb, rfl⟩, others⟩ := List.forall_mem_cons.mp there
      obtain ⟨apart, once'⟩ := List.nodup_cons.mp once
      show (releaseAddress b.portId b >>= fun _ => _).Leaves _ _
      refine Leaves.bind (leaves_releaseAddress coherent hb) ?_ ?_
      · rintro _ w₁ - ⟨issued₁, counted, one⟩
        have coherent₁ : Coherent w₁ services (rows.filter fun c => decide (c ≠ b)) := by
          have after := one.coherent
          simpa only [List.forall_mem_singleton] using after
        have there₁ : ∀ c ∈ rest, c ∈ rows.filter (fun c => decide (c ≠ b)) ∧
            c.portId = b.portId := fun c hc =>
          ⟨List.mem_filter.mpr ⟨(others c hc).1, decide_eq_true fun same => apart (same ▸ hc)⟩,
            (others c hc).2⟩
        refine Leaves.mono (ih coherent₁ there₁ once') ?_
        rintro r w₂ - ⟨gone, left, done, stopped⟩
        refine ⟨⟨b, w.removalFault 0⟩ :: gone, left, one.cons counted done, ?_, ?_,
          stopped.complete, ?_⟩
        · rw [stopped.split]
          rfl
        · rw [stopped.issued, issued₁, List.append_assoc]
          rfl
        · intro some
          obtain ⟨e, fault, other, failed⟩ := stopped.broken some
          exact ⟨e, (counted _).symm.trans fault, other, failed⟩
      · rintro err w₁ - ⟨issued₁, -, none, e, fault, other, rfl⟩
        refine ⟨[], b :: rest, none, rfl, issued₁, iff_of_false ?_ ?_, fun _ => ?_⟩
        · exact fun ok => nomatch ok
        · exact List.cons_ne_nil b rest
        · exact ⟨e, fault, other, rfl⟩

theorem leaves_portDeleted {p : Port} (other : p.role ≠ .dhcp)
    (coherent : Coherent w services rows) :
    (portDeleted p).Leaves w fun r w' => ∃ gone left, LetGo w services rows gone w' ∧
      Stopped w (Store.ofPort p.id rows) gone left r w' := by
  refine Leaves.locked (Leaves.locked ?_)
  have read := coherent.store.bindingsOf p.id
  refine Leaves.executed (congrArg Prod.fst read) ?_
  rw [read]
  have once : (Store.ofPort p.id rows).Nodup := by
    refine (List.mergeSort_perm _ _).nodup_iff.mpr (List.Nodup.sublist List.filter_sublist ?_)
    exact Table.Keyed.nodup coherent.rows_once
  refine Leaves.bind (leaves_releaseEach coherent (fun b => Store.mem_ofPort.mp) once) ?_ ?_
  · rintro u w₁ - here
    rw [if_neg other]
    exact Leaves.pure here
  · exact fun e w₁ _ here => here

/-- A deletion that meets no fault leaves nothing of the port. -/
theorem LetGo.all_of_port {portId : String} {gone : List Removal} {left : List Store.Binding}
    {r : Except Error Unit} (done : LetGo w services rows gone w')
    (stopped : Stopped w (Store.ofPort portId rows) gone left r w')
    (reliable : ∀ j, w.removalFault j = none) :
    r = .ok () ∧ ∃ rows', Coherent w' services rows' ∧ (∀ b ∈ rows', b.portId ≠ portId) ∧
      ∀ b ∈ rows, b.portId = portId → ∀ h ∈ w'.controller.bindings,
        (h.serverId, h.id) ≠ (b.serverId, b.bindingId) := by
  -- without a fault the deletion does not stop before the last row
  have nothing : left = [] := by
    cases left with
    | nil => rfl
    | cons b rest =>
        obtain ⟨e, fault, -, -⟩ := stopped.broken (List.cons_ne_nil b rest)
        exact nomatch (reliable _).symm.trans fault
  have all : ∀ b ∈ rows, b.portId = portId → ∃ g ∈ gone, g.row = b := by
    intro b hb mine
    have listed := Store.mem_ofPort.mpr ⟨hb, mine⟩
    rw [stopped.split, nothing, List.append_nil] at listed
    exact List.mem_map.mp listed
  refine ⟨stopped.complete.mpr nothing, _, done.coherent, fun b hb mine => ?_,
    fun b hb mine h hh same => ?_⟩
  · obtain ⟨old, kept⟩ := List.mem_filter.mp hb
    obtain ⟨g, hg, rfl⟩ := all b old mine
    exact of_decide_eq_true kept g hg rfl
  · obtain ⟨g, hg, rfl⟩ := all b hb mine
    obtain ⟨calls, controller⟩ := done.controller
    rw [controller] at hh
    obtain ⟨j, here⟩ := List.mem_iff_getElem?.mp hg
    have met : g.met = none := (done.faults j g here).trans (reliable j)
    exact of_decide_eq_true (List.mem_filter.mp hh).2 g hg ⟨met, same⟩

/-- When a port goes that is not a DHCP port, its rows are let go in the order of the listing until
the removal of a binding fails with another error than that the binding is missing, and nothing else
is changed. What is left is in order, and a deletion that meets no fault leaves nothing of the
port. -/
theorem deletion_stops_and_resumes {p : Port} (other : p.role ≠ .dhcp)
    (coherent : Coherent w services rows) :
    (∃ listed gone left, (w.execute (.bindingsOf p.id)).1 = .ok listed ∧
      LetGo w services rows gone ((portDeleted p).runIn w).2 ∧
      Stopped w listed gone left ((portDeleted p).runIn w).1 ((portDeleted p).runIn w).2) ∧
    ∀ (later : World) (services' : List Store.Service) (rows' : List Store.Binding),
      Coherent later services' rows' → (∀ j, later.removalFault j = none) →
        ((portDeleted p).runIn later).1 = .ok () ∧
        ∃ rows'', Coherent ((portDeleted p).runIn later).2 services' rows'' ∧
          (∀ b ∈ rows'', b.portId ≠ p.id) ∧
          ∀ b ∈ rows', b.portId = p.id →
            ∀ h ∈ ((portDeleted p).runIn later).2.controller.bindings,
              (h.serverId, h.id) ≠ (b.serverId, b.bindingId) := by
  constructor
  · obtain ⟨gone, left, done, stopped⟩ := leaves_portDeleted other coherent
    have read := congrArg Prod.fst (coherent.store.bindingsOf p.id)
    exact ⟨_, gone, left, read, done, stopped⟩
  · intro later services' rows' coherent' reliable
    obtain ⟨gone, left, done, stopped⟩ := leaves_portDeleted other coherent'
    exact done.all_of_port stopped reliable

/-- The first deletion of the first instance's port meets a fault and changes nothing, and the
second one leaves nothing of the port. -/
theorem deletion_resumes_once_hampered : ∃ services rows, Coherent Sample.hampered services rows ∧
    (∃ gone left, LetGo Sample.hampered services rows gone
        ((portDeleted Sample.instancePort).runIn Sample.hampered).2 ∧
      Stopped Sample.hampered (Store.ofPort "instance-port" rows) gone left
        ((portDeleted Sample.instancePort).runIn Sample.hampered).1
        ((portDeleted Sample.instancePort).runIn Sample.hampered).2) ∧
    ((portDeleted Sample.instancePort).runIn Sample.hampered).1.isOk = false ∧
    ((portDeleted Sample.instancePort).runIn
      ((portDeleted Sample.instancePort).runIn Sample.hampered).2).1 = .ok () := by
  obtain ⟨services, rows, bound⟩ := Sample.coherent_bound
  have coherent : Coherent Sample.hampered services rows := { bound with }
  have other : Sample.instancePort.role ≠ .dhcp := by decide
  obtain ⟨⟨listed, gone, left, read, done, stopped⟩, later⟩ :=
    deletion_stops_and_resumes other coherent
  have listing := congrArg Prod.fst (coherent.store.bindingsOf "instance-port")
  cases read.symm.trans listing
  -- only one removal was to fail, and it has been tried
  have reliable : ∀ j,
      ((portDeleted Sample.instancePort).runIn Sample.hampered).2.removalFault j = none := by
    intro j
    have tried : (((portDeleted Sample.instancePort).runIn
        Sample.hampered).2.callFaults.pattern .deleteBinding).seen = 1 := by decide +kernel
    rw [World.removalFault, tried, (follows_runIn _ _).failing]
    show (if 1 + j < 0 then none else if 1 + j < 0 + 1 then some _ else none) = none
    rw [if_neg (Nat.not_lt_zero _), if_neg (by omega)]
  exact ⟨services, rows, coherent, ⟨gone, left, done, stopped⟩, by decide +kernel,
    (later _ services _ done.coherent reliable).1⟩

end Dhcp

end Overlay
