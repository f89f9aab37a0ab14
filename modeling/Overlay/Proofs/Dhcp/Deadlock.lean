import Overlay.Proofs.Dhcp.Calls
import Overlay.Proofs.Dhcp.Serial

/-!
# Events never wait for each other

Every event takes its locks in order: the lock of a network before that of a port, and never a
second lock of the same kind. A rebuild takes the locks of many networks, but gives each one back
before it asks for the next. So events of any networks and ports, rebuilds among them, may be
delivered at the same time: some of them may have to wait, but never for each other.

Main statement: `events_go_on`.
-/

namespace Overlay.Dhcp

open Overlay.Handler

variable (settings : Settings)

/-- Seeking a server asks for one more lock, the network's, and for none inside it. -/
theorem climbs_ensureService (s : Subnet) (p : Port) : (ensureService settings s p).Climbs := by
  refine .locked _ (.bind (.execute trivial) fun service => ?_)
  cases service with
  | some x => exact .pure _
  | none =>
      refine .bind (.query trivial) fun network => ?_
      cases network with
      | none => exact .throw _
      | some n =>
          exact .bind (within_createService settings p n s).free fun _ => .pure _

theorem climbs_passPort (pass : Pass) (p : Port) : (passPort settings pass p).Climbs := by
  have subnet : ∀ (pass : Pass) id, (pass.subnet id).Climbs := fun pass id =>
    .free (within_subnet pass id).upkeep.ofDhcp.free
  have switchFor : ∀ subnet networkId, (switchFor subnet networkId).Climbs :=
    fun subnet networkId => .free (within_switchFor subnet networkId).upkeep.ofDhcp.free
  rw [passPort]
  split
  · rw [passDhcpPort.eq_def]
    split
    · exact .pure _
    · refine .bind (subnet pass _) fun found => .bind (switchFor _ _) fun switch => ?_
      split
      · refine .bind (.attempt (climbs_ensureService settings _ p)) fun result => ?_
        split <;> exact .pure _
      · exact .pure _
  · refine .foldlM (fun pass f => ?_) _ _
    refine .bind (subnet pass _) fun found => .bind (switchFor _ _) fun switch => ?_
    cases switch <;> exact .pure _
  · exact .pure _

theorem climbs_bindGroup (servers : List SwitchServer) (report : ResyncReport)
    (group : SwitchGroup) : (bindGroup settings servers report group).Climbs := by
  rw [bindGroup]
  split
  · exact .pure _
  · next server _ =>
    refine .locked _ (.foldlM (fun report entry => ?_) _ _)
    have bound := within_bindAddress settings entry.1 entry.2 server.service
    exact .bind (.attempt bound.upkeep.ofDhcp.free) fun _ => .pure _

/-- A rebuild asks for the lock of one network at a time. -/
theorem climbs_resync (profileId : Option String) : (resync settings profileId).Climbs := by
  refine .bind (.free (.setting _)) fun _ => .bind (.free (.query trivial)) fun ports => ?_
  refine .bind (.foldlM (climbs_passPort _) _ _) fun pass => ?_
  refine .bind (.foldlM (climbs_bindGroup settings pass.servers) _ _) fun report => ?_
  exact .bind (.free (.report trivial)) fun _ => .pure _

/-- Every event takes its locks in order. -/
theorem climbs_event (e : Event) : (e.handler settings).Climbs := by
  cases network : e.networkId? with
  | some networkId => exact (framed_event settings network).climbs
  | none =>
      cases e with
      | resync profileId => exact climbs_resync settings profileId
      | _ => exact nomatch network

/-- Events of any networks and ports may be delivered at the same time, each with settings of its
own. However their turns are interleaved, there are never some that all wait for one of them, and as
long as one of them has not been answered, one of them can go on. -/
theorem events_go_on {events : List (Settings × Event)} {c : Concurrent Answered}
    (h : Concurrent.Reached (events.map fun e => e.2.program e.1) c) :
    (∀ some, ¬ c.Circle some) ∧ (¬ c.Ended → ∃ i c', c.step? i = some c') := by
  refine h.goes_on fun p hp => ?_
  obtain ⟨e, -, rfl⟩ := List.mem_map.mp hp
  exact (climbs_event e.1 e.2).map _

/-- A port changes on one network and goes from another one, while everything is rebuilt. -/
def Sample.crossing : List (Settings × Event) :=
  [(Sample.settings,
      .portUpdated instancePort { instancePort with macAddress := "fa:16:3e:00:00:06" }),
    (Sample.settings, .portDeleted { instancePort with networkId := "other" }),
    (Sample.settings, .resync none)]

/-- The second event waits for the lock of the port and the rebuild for that of the network, both of
them for the first event. -/
theorem crossing_events_go_on : ∃ c,
    Concurrent.Reached (Sample.crossing.map fun e => e.2.program e.1) c ∧
      c.WaitsFor 1 0 ∧ c.WaitsFor 2 0 ∧ (∀ some, ¬ c.Circle some) ∧
      ∃ i c', c.step? i = some c' := by
  obtain ⟨c, run⟩ : ∃ c, (Concurrent.start (Sample.crossing.map fun e => e.2.program e.1)
      Sample.world).run? [0, 0, 1, 2, 2, 2] = some c := ⟨_, rfl⟩
  have reached := (Concurrent.Reached.start _).run run
  obtain ⟨apart, going⟩ := events_go_on reached
  have waiting : c.WaitsFor 1 0 ∧ c.WaitsFor 2 0 := by
    cases run
    exact ⟨⟨_, _, rfl, rfl⟩, ⟨_, _, rfl, rfl⟩⟩
  exact ⟨c, reached, waiting.1, waiting.2, apart, going waiting.1.not_ended⟩

end Overlay.Dhcp
