import Overlay.Proofs.Dhcp.Agreement
import Overlay.Proofs.Dhcp.Strays

/-!
# Coherent surroundings

Theorems about runs start with nothing. Those about a single event, or about a few of them, start
from any surroundings in which rows and bindings agree and in which store and controller keep their
own rules: a key is there once, and a name that has not been given is not in use.

* `Coherent.ledger`: such surroundings show a linked ledger whose rows agree with their bindings.
* `Coherent.of_homed_run`: runs in which addresses stay under their subnets lead to such
  surroundings.
-/

namespace Overlay.Dhcp

open Overlay.Controller (HeldServer HeldBinding)

/-- What surroundings have as rows, as services and at the controller agrees, no key occurs twice,
and no name that the controller is still to give is in use. -/
structure Coherent (w : World) (services : List Store.Service) (rows : List Store.Binding) : Prop
    extends Agrees w services rows where
  services_once : (services.map (·.networkId)).Nodup
  rows_once : (rows.map fun b => (b.portId, b.address)).Nodup
  servers_once : (w.controller.servers.map (·.id)).Nodup
  bindings_once : (w.controller.bindings.map (·.id)).Nodup
  servers_new : ∀ k, w.controller.made.servers < k → ∀ v ∈ w.controller.servers,
    v.id ≠ Controller.State.serverName k
  bindings_new : ∀ k, w.controller.made.bindings < k → ∀ h ∈ w.controller.bindings,
    h.id ≠ Controller.State.bindingName k

namespace Coherent

variable {w : World} {services : List Store.Service} {rows : List Store.Binding}

/-- The ledger that surroundings with these services and rows show. -/
def ledgerOf (w : World) (services : List Store.Service) (rows : List Store.Binding) : Ledger :=
  ⟨services, rows, w.controller.servers, w.controller.bindings, w.controller.made.servers,
    w.controller.made.bindings, w.store.networks, w.store.ports⟩

theorem shows (coherent : Coherent w services rows) : w.Shows (ledgerOf w services rows) where
  store := coherent.store
  controller := ⟨rfl, rfl, rfl, rfl⟩
  networks := rfl
  ports := rfl

theorem agreed (coherent : Coherent w services rows) : (ledgerOf w services rows).Agreed :=
  coherent.bound

/-- Two rows that name a binding of one name are the same: the binding tells their server. -/
theorem names_once (coherent : Coherent w services rows) :
    Table.Keyed Store.Binding.bindingId rows := by
  have names : Table.Keyed Store.Binding.name rows := coherent.distinct
  refine names.of_key fun b hb c hc same => ?_
  have held : heldFor b = heldFor c := Table.Keyed.eq_of_key coherent.bindings_once
    (coherent.bound b hb) (coherent.bound c hc) same
  exact Prod.ext (congrArg HeldBinding.serverId held) same

theorem linked (coherent : Coherent w services rows) : (ledgerOf w services rows).Linked where
  services_keyed := coherent.services_once
  rows_keyed := coherent.rows_once
  names_keyed := coherent.names_once
  servers_keyed := coherent.servers_once
  held_keyed := coherent.bindings_once
  servers_new := coherent.servers_new
  held_new := coherent.bindings_new
  server_of_service := coherent.served
  service_of_row := coherent.owned
  held_of_row b hb := ⟨heldFor b, coherent.bound b hb, rfl⟩

theorem of_ledger {l : Ledger} (shows : w.Shows l) (linked : l.Linked) (agreed : l.Agreed) :
    Coherent w l.services l.rows where
  toAgrees := agreed.agrees linked shows
  services_once := linked.services_keyed
  rows_once := linked.rows_keyed
  servers_once := by
    rw [shows.controller.servers_eq]
    exact linked.servers_keyed
  bindings_once := by
    rw [shows.controller.bindings_eq]
    exact linked.held_keyed
  servers_new := by
    rw [shows.controller.servers_eq, shows.controller.servers_made]
    exact linked.servers_new
  bindings_new := by
    rw [shows.controller.bindings_eq, shows.controller.bindings_made]
    exact linked.held_new

/-- A change from outside that leaves these records alone. -/
theorem untouched {w w' : World} (coherent : Coherent w services rows)
    (h : w.Untouched w') : Coherent w' services rows where
  store := ⟨h.services.trans coherent.store.services_eq,
    h.bindings.trans coherent.store.bindings_eq, coherent.store.services_legible,
    coherent.store.bindings_legible⟩
  bound := h.held ▸ coherent.bound
  distinct := coherent.distinct
  owned := coherent.owned
  served := h.servers ▸ coherent.served
  services_once := coherent.services_once
  rows_once := coherent.rows_once
  servers_once := h.servers ▸ coherent.servers_once
  bindings_once := h.held ▸ coherent.bindings_once
  servers_new := h.servers ▸ h.serversMade ▸ coherent.servers_new
  bindings_new := h.held ▸ h.bindingsMade ▸ coherent.bindings_new

/-- A run in which each address of a port stays under its subnet leads to coherent surroundings. -/
theorem of_homed_run {home : String → IPv4 → String} {ds : List Delivery}
    (run : Run (fun d => ∀ p ∈ d.ports, Homed home p) ds w) :
    ∃ services rows, Coherent w services rows := by
  obtain ⟨l, shows, linked, -, agreed⟩ := run.invariant (P := fun l => l.AtHome home ∧ l.Agreed)
    ⟨fun b hb => (nomatch hb), fun b hb => (nomatch hb)⟩ (fun _ _ _ h => h)
    fun d l acts l' homed linked h leads =>
      leads.path.agreed linked homed leads.changed.sourced h.1 h.2
  exact ⟨l.services, l.rows, of_ledger shows linked agreed⟩

end Coherent

namespace Sample

/-- Without any records there is nothing that could disagree. -/
theorem coherent_start {w : World}
    (untouched : (World.empty false Clock.counting).Untouched w) : Coherent w [] [] := by
  have run : Run (fun d => ∀ p ∈ d.ports, Homed (fun _ _ => "") p) [] w :=
    .change (.start false Clock.counting) untouched
  obtain ⟨services, rows, coherent⟩ := Coherent.of_homed_run run
  have no_services : some [] = some (services.map Store.Service.toRow) :=
    untouched.services.symm.trans coherent.store.services_eq
  have no_rows : some [] = some (rows.map Store.Binding.toRow) :=
    untouched.bindings.symm.trans coherent.store.bindings_eq
  rwa [List.map_eq_nil_iff.mp (Option.some.inj no_services).symm,
    List.map_eq_nil_iff.mp (Option.some.inj no_rows).symm] at coherent

/-- In the first run each address stays under its subnet. -/
theorem homed_run :
    Run (fun d => ∀ p ∈ d.ports, Homed (fun _ _ => "subnet") p) [served, bound] bound.after := by
  obtain ⟨first, second⟩ := ports (P := Homed fun _ _ => "subnet") ⟨by decide, by decide⟩
    ⟨by decide, by decide⟩
  exact run first second

end Sample

end Overlay.Dhcp
