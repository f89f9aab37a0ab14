import Overlay.Dhcp.Event
import Overlay.Proofs.Dhcp.Requests
import Overlay.Proofs.World

/-!
# What events leave alone

No event but a rebuilding of everything touches more than services and bindings at the store, and
servers, bindings and switch ports at the controller. A switch port is made for a new network only,
and nothing else is done then.

Main statement: `beside_event`.
-/

namespace Overlay

open Controller (Call)

namespace Controller.State

/-- The name of the switch port with this number. -/
def switchPortName (n : Nat) : String := s!"lp-{n}"

theorem switchPortName_inj {m n : Nat} (h : switchPortName m = switchPortName n) : m = n :=
  Text.append_toString_inj h

/-- The controller but for DHCP servers, bindings, switch ports and the record of calls. -/
def aside (s : State) : State :=
  { s with
    calls := []
    switchPorts := []
    servers := []
    bindings := []
    made := ⟨s.made.routerPorts, 0, 0, 0⟩ }

/-- Calls about servers and bindings leave everything else alone. -/
theorem perform_ofDhcp (s : State) {c : Call} (h : c.OfDhcp) :
    (s.perform c).2.aside = s.aside ∧ (s.perform c).2.switchPorts = s.switchPorts ∧
      (s.perform c).2.made.switchPorts = s.made.switchPorts := by
  cases c with
  | setAttachment portId attachmentId kind => exact ⟨rfl, rfl, rfl⟩
  | createServer config => exact ⟨rfl, rfl, rfl⟩
  | setServerIp id ip =>
      simp only [perform, effect, setServerIp]
      split <;> exact ⟨rfl, rfl, rfl⟩
  | deleteServer id =>
      simp only [perform, effect, deleteServer]
      split
      · exact ⟨rfl, rfl, rfl⟩
      · split <;> exact ⟨rfl, rfl, rfl⟩
  | createBinding serverId r =>
      simp only [perform, effect, createBinding]
      split
      · exact ⟨rfl, rfl, rfl⟩
      · split <;> exact ⟨rfl, rfl, rfl⟩
  | updateBinding serverId bindingId u =>
      simp only [perform, effect, updateBinding]
      split <;> exact ⟨rfl, rfl, rfl⟩
  | deleteBinding serverId bindingId =>
      simp only [perform, effect, deleteBinding]
      split <;> exact ⟨rfl, rfl, rfl⟩
  | _ => exact h.elim

end Controller.State

/-- The switch ports with one more, if one is made. -/
def withPort (made? : Option SwitchPort) (ports : List SwitchPort) : List SwitchPort :=
  match made? with
  | some p => Table.put SwitchPort.id p ports
  | none => ports

/-- Between `w` and `w'` nothing has changed beside services, bindings and servers but that this
switch port was made, if any. -/
structure World.Beside (w : World) (made? : Option SwitchPort) (w' : World) : Prop where
  rest : w'.controller.aside = w.controller.aside
  switchPorts : w'.controller.switchPorts = withPort made? w.controller.switchPorts
  made : w'.controller.made.switchPorts = w.controller.made.switchPorts + made?.toList.length
  networks : w'.store.networks = w.store.networks
  ports : w'.store.ports = w.store.ports

namespace World.Beside

variable {w w' w'' : World}

theorem refl (w : World) : w.Beside none w := ⟨rfl, rfl, rfl, rfl, rfl⟩

theorem trans (h : w.Beside none w') (h' : w'.Beside none w'') : w.Beside none w'' :=
  ⟨h'.rest.trans h.rest, h'.switchPorts.trans h.switchPorts, h'.made.trans h.made,
    h'.networks.trans h.networks, h'.ports.trans h.ports⟩

theorem call (w : World) {c : Call} (h : c.OfDhcp) : w.Beside none (w.call c).2 := by
  cases next : w.callFaults.next c.operation with
  | some e =>
      rw [call_lost next]
      exact ⟨rfl, rfl, rfl, rfl, rfl⟩
  | none =>
      rw [call_arrived next]
      obtain ⟨rest, switchPorts, made⟩ := w.controller.perform_ofDhcp h
      exact ⟨rest, switchPorts, made, rfl, rfl⟩

end World.Beside

/-- The request is about services and bindings, or about a lock. -/
def Request.OfEvent (r : Request) : Prop := r.OfDhcp ∨ ¬ r.Free

theorem World.Beside.answer (w : World) {r : Request} (h : r.OfEvent) :
    w.Beside none (w.answer r).2 := by
  cases r with
  | acquire key => exact .refl w
  | release key => exact .refl w
  | call c => exact .call w (h.resolve_right fun locks => locks trivial)
  | query q =>
      have same : (w.query q).2 = { w with queryFaults := w.queryFaults.count q.topic } := by
        rw [World.query]
        split <;> rfl
      show w.Beside none (w.query q).2
      rw [same]
      exact ⟨rfl, rfl, rfl, rfl, rfl⟩
  | execute st =>
      have ofDhcp : st.OfDhcp := h.resolve_right fun locks => locks trivial
      cases st with
      | putNetwork m => exact ofDhcp.elim
      | putPort m => exact ofDhcp.elim
      | _ => exact ⟨rfl, rfl, rfl, rfl, rfl⟩
  | validated id => exact .refl w
  | remember t => exact ⟨rfl, rfl, rfl, rfl, rfl⟩
  | report e =>
      rw [World.answer]
      split <;> exact ⟨rfl, rfl, rfl, rfl, rfl⟩
  | now => exact ⟨rfl, rfl, rfl, rfl, rfl⟩

/-- A program that asks for nothing else does nothing else. -/
theorem Program.Within.beside {α : Type} {p : Program α} (within : p.Within Request.OfEvent)
    (w : World) : w.Beside none (p.run w).2 := by
  induction p generalizing w with
  | done a => exact .refl w
  | ask r k ih => exact (World.Beside.answer w within.1).trans (ih _ (within.2 _) _)

namespace Dhcp

open Overlay.Handler

variable (settings : Settings)

theorem within_locked {α : Type} (key : LockKey) {body : Handler α}
    (h : body.Within Request.OfDhcp) : (locked key body).Within Request.OfEvent :=
  .locked (Or.inr id) (Or.inr id) (h.mono fun _ => Or.inl)

theorem within_lockedPort {α : Type} (p : Port) {body : Handler α}
    (h : body.Within Request.OfDhcp) : (lockedPort p body).Within Request.OfEvent :=
  .locked (Or.inr id) (Or.inr id) (within_locked _ h)

/-- Only a new network and a rebuilding of everything ask for more. -/
theorem within_event {e : Event} (network : ∀ n, e ≠ .networkCreated n)
    (single : ∀ profileId, e ≠ .resync profileId) :
    (e.handler settings).Within Request.OfEvent := by
  have torn : ∀ networkId, (locked (.network networkId) (teardown networkId none)).Within
      Request.OfEvent := fun networkId =>
    within_locked _ (within_teardown networkId none).upkeep_of_removal.ofDhcp
  cases e with
  | networkCreated n => exact absurd rfl (network n)
  | networkDeleted networkId => exact torn networkId
  | subnetCreated s =>
      have checked := (within_ensureOnlyDhcpSubnet settings s).upkeep.ofDhcp
      exact .ite (fun _ => within_locked _ checked) fun _ => .pure ()
  | subnetUpdated old new =>
      refine within_locked _ ?_
      split
      · exact (within_ensureOnlyDhcpSubnet settings new).upkeep.ofDhcp
      · exact (within_teardown new.networkId none).upkeep_of_removal.ofDhcp
      · exact .pure ()
  | subnetDeleted s => exact .ite (fun _ => torn s.networkId) fun _ => .pure ()
  | portCreated p =>
      exact .ite (fun _ => within_lockedPort p (within_coming settings p)) fun _ => .pure ()
  | portUpdated old new =>
      exact .ite (fun _ => .pure ()) fun _ =>
        within_lockedPort new (within_changing settings old new)
  | portDeleted p => exact within_lockedPort p (within_going p).upkeep_of_removal.ofDhcp
  | resync profileId => exact absurd rfl (single profileId)

/-! ## New networks -/

/-- The switch on which the metadata proxy of a new network gets a port, or why it gets none. -/
def proxySwitch (networks : Option (List Store.NetworkMapping)) (n : Network) :
    Except Error (Option String) :=
  if !settings.nativeDhcp then .ok none
  else
    match settings.metadataProxy, networks with
    | .error e, _ => .error (.settings e)
    | .ok _, none => .error (.store .database)
    | .ok _, some rows =>
      match Table.find? Store.NetworkMapping.networkId n.id rows with
      | none => .error (.notFound (.switch n.id))
      | some row => .ok (some row.switchId)

/-- The next switch port, on this switch. -/
def nextSwitchPort (w : World) (switchId : String) : SwitchPort :=
  ⟨Controller.State.switchPortName (w.controller.made.switchPorts + 1), switchId⟩

/-- If nothing fails, the metadata proxy of a new network gets a switch port, and nothing else is
done. -/
theorem ends_networkCreated {w : World} (calm : w.Calm) (n : Network) :
    (networkCreated settings n).Ends w fun r w' =>
      r = (proxySwitch settings w.store.networks n).map (·.map (nextSwitchPort w)) ∧
        w.Beside (r.toOption.bind id) w' := by
  rw [networkCreated, proxySwitch.eq_def]
  by_cases off : (!settings.nativeDhcp) = true
  · rw [if_pos off, if_pos off]
    exact Ends.pure ⟨rfl, .refl w⟩
  rw [if_neg off, if_neg off]
  cases settings.metadataProxy with
  | error e => exact Ends.throw ⟨rfl, .refl w⟩
  | ok proxyId =>
      refine Ends.locked ?_
      refine Ends.bind (Ends.execute (T := fun r w' => w' = w ∧
        r = (Store.readTable w.store.networks fun rows => .ok ((Table.find?
          Store.NetworkMapping.networkId n.id rows).map (·.switchId))).mapError .store)
        ⟨rfl, rfl⟩) ?_ ?_
      · rintro switch w1 - ⟨rfl, answer⟩
        cases mapped : w1.store.networks with
        | none => rw [mapped] at answer; exact nomatch answer
        | some rows =>
            rw [mapped] at answer
            rw [Except.ok.inj answer]
            cases found : Table.find? Store.NetworkMapping.networkId n.id rows with
            | none =>
                refine Ends.throw ⟨?_, .refl w1⟩
                dsimp only
                rw [found]
                rfl
            | some row =>
                -- nothing fails here, so the call arrives and the switch port has the next name
                refine Ends.bind (P := fun r w' => r = .ok (nextSwitchPort w1 row.switchId) ∧
                  w1.Beside (some (nextSwitchPort w1 row.switchId)) w') (Ends.call ?_ ?_) ?_ ?_
                · exact fun e lost => absurd calm (World.not_calm_of_next lost)
                · exact fun _ => ⟨rfl, rfl, rfl, rfl, rfl, rfl⟩
                · rintro port w2 - ⟨made, beside⟩
                  cases made
                  refine Ends.bind (Ends.report (T := fun r w' => ∃ trail, r = .ok () ∧
                    w' = { w2 with trail }) fun trail => ⟨trail, rfl, rfl⟩) ?_ ?_
                  · rintro _ w3 - ⟨trail, -, rfl⟩
                    refine Ends.pure ⟨?_, beside.rest, beside.switchPorts, beside.made,
                      beside.networks, beside.ports⟩
                    dsimp only
                    rw [found]
                    rfl
                  · rintro e w3 - ⟨trail, none, -⟩
                    exact nomatch none
                · rintro e w2 - ⟨none, -⟩
                  exact nomatch none
      · rintro e w1 - ⟨rfl, answer⟩
        cases mapped : w1.store.networks with
        | none =>
            rw [mapped] at answer
            cases answer
            exact ⟨rfl, .refl w1⟩
        | some rows =>
            rw [mapped] at answer
            exact nomatch answer

/-! ## All events -/

/-- The switch port that an event has made, going by the answer. -/
def Event.made? : (e : Event) → Except Error e.Answer → Option SwitchPort
  | .networkCreated _, r => r.toOption.bind id
  | _, _ => none

/-- An event that is not a rebuilding of everything leaves everything alone but services, bindings
and servers, and the switch port that it makes. -/
theorem beside_event {w : World} (calm : w.Calm) {e : Event}
    (single : ∀ profileId, e ≠ .resync profileId) :
    (e.handler settings).Ends w fun r w' => w.Beside (e.made? r) w' := by
  have only : (∀ n, e ≠ .networkCreated n) → w.Beside none ((e.handler settings).runIn w).2 :=
    fun network => (within_event settings network single).beside w
  cases e with
  | networkCreated n =>
      exact Ends.mono (ends_networkCreated settings calm n) fun r w' _ h => h.2
  | resync profileId => exact absurd rfl (single profileId)
  | _ => exact fun _ => only fun n => nofun

end Dhcp

end Overlay
