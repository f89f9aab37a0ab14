import Overlay.Proofs.Dhcp.Coherent

/-!
# Taking down a network's server

A network loses its server when it goes, when a subnet of it that is served by DHCP goes, and when
such a subnet is no longer to be served. All three come to one deletion at the controller and to
removals from the store that cannot fail, so the answer to the deletion decides: either nothing is
changed, or the service goes with the rows under its server and with nothing else.

Main statement: `server_taken_down`.
-/

namespace Overlay.Controller.State

/-- The controller without a server and the bindings under it. -/
def withoutServer (s : State) (serverId : String) : State :=
  { s with
    servers := Table.remove HeldServer.id serverId s.servers
    bindings := Table.remove HeldBinding.serverId serverId s.bindings }

/-- A controller that is told to delete a server it has refuses and changes nothing, or it does
so. -/
theorem deleteServer_cases {s : State} {serverId : String}
    (there : ∃ v ∈ s.servers, v.id = serverId) :
    (∃ e, s.deleteServer serverId = (.error e, s)) ∨
      s.deleteServer serverId = (.ok (), s.withoutServer serverId) := by
  rw [deleteServer]
  by_cases refused : s.refusals.serverDeletes = true
  · rw [if_pos refused]
    exact Or.inl ⟨_, rfl⟩
  · have found : (s.server? serverId).isNone = false := by
      cases none : s.server? serverId with
      | some v => rfl
      | none =>
          obtain ⟨v, hv, id⟩ := there
          exact absurd id (Table.find?_eq_none_iff.mp none v hv)
    rw [if_neg refused, found]
    exact Or.inr rfl

end Overlay.Controller.State

namespace Overlay.Store

/-- The service and the rows under its server have gone, and the store is otherwise unchanged. -/
structure Forgets (s s' : Store) (services : List Service) (rows : List Binding) (x : Service) :
    Prop where
  holds : s'.Holds (Table.remove Service.networkId x.networkId services)
    (Table.remove Binding.serverId x.serverId rows)
  networks : s'.networks = s.networks
  ports : s'.ports = s.ports

end Overlay.Store

namespace Overlay.Dhcp

open Overlay.Handler
open Overlay.Controller (HeldServer HeldBinding)

variable {w : World} {services : List Store.Service} {rows : List Store.Binding}

/-- The event ends DHCP on a network. -/
inductive Event.EndsDhcp (networkId : String) : Event → Prop
  | networkDeleted : EndsDhcp networkId (.networkDeleted networkId)
  | subnetDeleted (s : Subnet) (serves : s.servesDhcp = true) (on : s.networkId = networkId) :
      EndsDhcp networkId (.subnetDeleted s)
  | subnetUpdated (old new : Subnet) (served : old.servesDhcp = true)
      (idle : new.servesDhcp = false) (on : new.networkId = networkId) :
      EndsDhcp networkId (.subnetUpdated old new)

/-- What is done on such an event is to take the network's server down, whoever it was made for. -/
theorem Event.EndsDhcp.leaves {networkId : String} {e : Event} (ends : e.EndsDhcp networkId)
    (settings : Settings) {Q : Except Error Unit → World → Prop}
    (torn : (teardown networkId none).Leaves w Q) :
    (e.handler settings).Leaves w fun r w' => Q (r.map fun _ => ()) w' := by
  have unit : ∀ {h : Handler Unit}, h.Leaves w Q →
      h.Leaves w fun r w' => Q (r.map fun _ => ()) w' :=
    fun leaves => leaves.mono fun r w' _ here => by cases r <;> exact here
  cases ends with
  | networkDeleted => exact unit torn.locked
  | subnetDeleted s serves on =>
      refine unit (h := Dhcp.subnetDeleted s) ?_
      rw [Dhcp.subnetDeleted, if_pos serves, on]
      exact torn.locked
  | subnetUpdated old new served idle on =>
      refine unit (h := Dhcp.subnetUpdated settings old new) ?_
      rw [Dhcp.subnetUpdated, served, idle, on]
      exact torn.locked

/-- What taking down the server of `x` comes to, by the answer to the one call that is made. If it
fails with anything but that the server is missing, nothing is changed. Otherwise the store forgets
the service, and the controller is without the server and the bindings under it if the call was
answered without an error. A controller also keeps a record of the calls that reach it. -/
structure Dismantled (w : World) (services : List Store.Service) (rows : List Store.Binding)
    (x : Store.Service) (answer : Except Controller.Error Unit) (r : Except Error Unit)
    (w' : World) : Prop where
  issued : w'.issued = w.issued ++ [.deleteServer x.serverId]
  failed : ∀ e, answer = .error e → e.kind ≠ .notFound → r = .error (.controller e) ∧
    w'.store = w.store ∧ ∃ calls, w'.controller = { w.controller with calls }
  missing : ∀ e, answer = .error e → e.kind = .notFound → r = .ok () ∧
    w.store.Forgets w'.store services rows x ∧
    ∃ calls, w'.controller = { w.controller with calls }
  deleted : answer = .ok () → r = .ok () ∧ w.store.Forgets w'.store services rows x ∧
    ∃ calls, w'.controller = { w.controller.withoutServer x.serverId with calls }

/-- The call that deletes the server of a service fails and changes nothing, or the server goes with
the bindings under it. -/
theorem Coherent.call_deleteServer (coherent : Coherent w services rows) {x : Store.Service}
    (hx : x ∈ services) :
    ∃ calls, (∃ e, w.call (.deleteServer x.serverId) = (.error e,
        { w.noted (.deleteServer x.serverId) with
          controller := { w.controller with calls } })) ∨
      w.call (.deleteServer x.serverId) = (.ok (),
        { w.noted (.deleteServer x.serverId) with
          controller := { w.controller.withoutServer x.serverId with calls } }) := by
  cases fate : w.callFaults.next (Controller.Call.deleteServer x.serverId).operation with
  | some e => exact ⟨w.controller.calls, Or.inl ⟨e, World.call_lost fate⟩⟩
  | none =>
      have arrived := World.call_arrived fate
      refine ⟨w.controller.calls ++ [.deleteServer x.serverId], ?_⟩
      rcases Controller.State.deleteServer_cases (s := { w.controller with
        calls := w.controller.calls ++ [.deleteServer x.serverId] }) (coherent.served x hx) with
        ⟨e, refused⟩ | gone
      · rw [show w.controller.perform (.deleteServer x.serverId) = _ from refused] at arrived
        exact Or.inl ⟨e, arrived⟩
      · rw [show w.controller.perform (.deleteServer x.serverId) = _ from gone] at arrived
        exact Or.inr arrived

theorem leaves_teardown (coherent : Coherent w services rows) {x : Store.Service}
    (hx : x ∈ services) :
    (teardown x.networkId none).Leaves w fun r w' =>
      Dismantled w services rows x (w.call (.deleteServer x.serverId)).1 r w' := by
  have found : Table.find? Store.Service.networkId x.networkId services = some x :=
    Table.Keyed.find? coherent.services_once hx
  have read := coherent.store.getService x.networkId
  rw [found] at read
  refine Leaves.executed (congrArg Prod.fst read) ?_
  rw [read]
  refine Leaves.bind (P := fun r w' => r = .ok (w.call (.deleteServer x.serverId)).1 ∧
    w' = (w.call (.deleteServer x.serverId)).2) ⟨rfl, rfl⟩ ?_ fun e w₁ _ h => nomatch h.1
  rintro answer w₁ - ⟨same, rfl⟩
  rw [Except.ok.inj same]
  obtain ⟨calls, ⟨e, failed⟩ | deleted⟩ := coherent.call_deleteServer hx
  · rw [failed]
    -- a server that is gone already is forgotten; any other error stops the handler
    by_cases missing : e.kind = .notFound
    · rw [settle_missing missing, pure_bind]
      refine Leaves.mono (leaves_forget (w := { w.noted (.deleteServer x.serverId) with
        controller := { w.controller with calls } }) coherent.store coherent.rows_once x) ?_
      rintro r w₂ - ⟨rfl, store, trail, rfl, networks, ports, holds⟩
      refine ⟨rfl, ?_, fun e' _ _ => ⟨rfl, ⟨holds, networks, ports⟩, calls, rfl⟩,
        fun ok => nomatch ok⟩
      rintro e' ⟨⟩ other
      exact absurd missing other
    · rw [settle_error missing]
      refine Leaves.throw ⟨rfl, ?_, ?_, fun ok => nomatch ok⟩
      · rintro e' ⟨⟩ -
        exact ⟨rfl, rfl, calls, rfl⟩
      · rintro e' ⟨⟩ missing'
        exact absurd missing' missing
  · rw [deleted]
    refine Leaves.mono (leaves_forget (w := { w.noted (.deleteServer x.serverId) with
      controller := { w.controller.withoutServer x.serverId with calls } })
      coherent.store coherent.rows_once x) ?_
    rintro r w₂ - ⟨rfl, store, trail, rfl, networks, ports, holds⟩
    exact ⟨rfl, fun e error => (nomatch error), fun e error => (nomatch error),
      fun _ => ⟨rfl, ⟨holds, networks, ports⟩, calls, rfl⟩⟩

/-- Without a service there is nothing to take down. -/
theorem Event.EndsDhcp.idle {networkId : String} {e : Event} (ends : e.EndsDhcp networkId)
    (settings : Settings) (holds : w.store.Holds services rows)
    (gone : ∀ x ∈ services, x.networkId ≠ networkId) :
    ∃ a, (e.handler settings).runIn w = (.ok a, w) := by
  have torn : (teardown networkId none).Leaves w fun r w' => r = .ok () ∧ w' = w := by
    have read := holds.getService networkId
    rw [Table.find?_eq_none_iff.mpr gone] at read
    refine Leaves.executed (congrArg Prod.fst read) ?_
    rw [read]
    exact Leaves.pure ⟨rfl, rfl⟩
  have idle := ends.leaves settings torn
  cases run : (e.handler settings).runIn w with
  | mk r w' =>
      rw [Leaves, run] at idle
      cases r with
      | error e => exact nomatch idle.1
      | ok a => exact ⟨a, Prod.ext rfl idle.2⟩

/-- Whatever the answer to the call is, nothing is changed or all is done. -/
theorem Dismantled.all_or_nothing {x : Store.Service} {answer : Except Controller.Error Unit}
    {r : Except Error Unit} {w' : World} (down : Dismantled w services rows x answer r w') :
    (r = .ok () ∧ w.store.Forgets w'.store services rows x) ∨
      ((∃ e, r = .error e) ∧ w'.store = w.store ∧
        ∃ calls, w'.controller = { w.controller with calls }) := by
  cases answer with
  | ok u =>
      obtain ⟨done, forgets, -⟩ := down.deleted rfl
      exact Or.inl ⟨done, forgets⟩
  | error e =>
      by_cases missing : e.kind = .notFound
      · obtain ⟨done, forgets, -⟩ := down.missing e rfl missing
        exact Or.inl ⟨done, forgets⟩
      · obtain ⟨failed, kept⟩ := down.failed e rfl missing
        exact Or.inr ⟨⟨_, failed⟩, kept⟩

/-- If DHCP ends on a network with a service, the answer to the deletion of the server decides
between nothing and all of what is to be done, and nothing else is changed. Once it has been done,
nothing is changed by doing it again; until then everything is in order for another attempt. -/
theorem server_taken_down (coherent : Coherent w services rows) {x : Store.Service}
    (hx : x ∈ services) {e : Event} (ends : e.EndsDhcp x.networkId) (settings : Settings) :
    Dismantled w services rows x (w.call (.deleteServer x.serverId)).1
        (((e.handler settings).runIn w).1.map fun _ => ()) ((e.handler settings).runIn w).2 ∧
      (((e.handler settings).runIn w).1.isOk = true →
        ∀ (e' : Event) (settings' : Settings), e'.EndsDhcp x.networkId →
          ∃ a, (e'.handler settings').runIn ((e.handler settings).runIn w).2
            = (.ok a, ((e.handler settings).runIn w).2)) ∧
      (((e.handler settings).runIn w).1.isOk = false →
        Coherent ((e.handler settings).runIn w).2 services rows) := by
  have down : Dismantled w services rows x (w.call (.deleteServer x.serverId)).1
      (((e.handler settings).runIn w).1.map fun _ => ()) ((e.handler settings).runIn w).2 :=
    ends.leaves settings (leaves_teardown coherent hx)
  refine ⟨down, ?_⟩
  cases run : (e.handler settings).runIn w with
  | mk r w' =>
      rw [run] at down
      rcases down.all_or_nothing with ⟨done, forgets⟩ | ⟨⟨err, failed⟩, store, calls, controller⟩
      · cases r with
        | error err => exact nomatch done
        | ok a =>
            refine ⟨fun _ e' settings' ends' => ?_, fun failed => nomatch failed⟩
            exact ends'.idle settings' forgets.holds fun y hy => (Table.mem_remove.mp hy).2
      · cases r with
        | ok a => exact nomatch failed
        | error err =>
            refine ⟨fun done => (nomatch done), fun _ => coherent.untouched ?_⟩
            exact ⟨by rw [store], by rw [store], by rw [controller], by rw [controller],
              by rw [controller], by rw [controller]⟩

namespace Sample

/-- After the first run there is one service. -/
theorem service_of_bound {services : List Store.Service} {rows : List Store.Binding}
    (coherent : Coherent bound.after services rows) :
    ∃ x ∈ services, x.networkId = "net" ∧ x.serverId = "dhcp-1" := by
  have table : bound.after.store.services.map (·.map fun r => (r.networkId, r.serverId))
      = some [("net", "dhcp-1")] := by decide +kernel
  rw [coherent.store.services_eq, Option.map_some, List.map_map] at table
  have there : ("net", "dhcp-1") ∈ services.map fun x => (x.networkId, x.serverId) := by
    rw [show services.map (fun x => (x.networkId, x.serverId)) = _ from Option.some.inj table]
    exact List.mem_singleton_self _
  obtain ⟨x, hx, same⟩ := List.mem_map.mp there
  exact ⟨x, hx, congrArg Prod.fst same, congrArg Prod.snd same⟩

end Sample

/-- The first network loses its server, and with it the only row and the only binding. -/
theorem first_server_taken_down : ∃ services rows, Coherent Sample.bound.after services rows ∧
    ∃ x ∈ services, x.networkId = "net" ∧
      (Sample.bound.after.call (.deleteServer x.serverId)).1.isOk = true ∧
      Dismantled Sample.bound.after services rows x
        (Sample.bound.after.call (.deleteServer x.serverId)).1
        ((((Event.networkDeleted "net").handler Sample.settings).runIn
          Sample.bound.after).1.map fun _ => ())
        (((Event.networkDeleted "net").handler Sample.settings).runIn Sample.bound.after).2 := by
  obtain ⟨services, rows, coherent⟩ := Coherent.of_homed_run Sample.homed_run
  obtain ⟨x, hx, network, server⟩ := Sample.service_of_bound coherent
  have ends : (Event.networkDeleted "net").EndsDhcp x.networkId := by
    rw [network]
    exact .networkDeleted
  have answered : (Sample.bound.after.call (.deleteServer x.serverId)).1.isOk = true := by
    rw [server]
    decide +kernel
  exact ⟨services, rows, coherent, x, hx, network, answered,
    (server_taken_down coherent hx ends Sample.settings).1⟩

end Overlay.Dhcp
